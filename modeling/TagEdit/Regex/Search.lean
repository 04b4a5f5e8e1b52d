import TagEdit.Regex.Program

/-!
# Searching

Runs a matching program over a text. At every place there is a list of threads
in order of preference, each at an instruction that takes up a character or
accepts; `spread` follows the other instructions, each at most once for a place.
A thread that accepts drops the less preferred ones. As long as nothing has been
accepted, a new thread begins at every place, so the leftmost match is found
and, of those that begin there, the most preferred one.
-/

namespace TagEdit.Regex

open Unicode

structure Cursor where
  pos : Nat
  /-- The character in front of the place. -/
  before : Option Char
  rest : Text
  deriving DecidableEq, Repr

namespace Cursor

def atStart (t : Text) : Cursor := ⟨0, none, t⟩

def advance (k : Cursor) : Cursor :=
  match k.rest with
  | [] => k
  | c :: rest => ⟨k.pos + 1, some c, rest⟩

def advanceBy : Nat → Cursor → Cursor
  | 0, k => k
  | n + 1, k => advanceBy n k.advance

end Cursor

/-- Whether an optional character belongs to a word. -/
def inWord (ascii : Bool) (c : Option Char) : Bool :=
  c.any fun c => if ascii then c.isAlphanum || c == '_' else isWordChar c

def Look.holds (k : Cursor) : Look → Bool
  | .start => k.before.isNone
  | .stop => k.rest.isEmpty
  | .startLine => k.before.isNone || k.before == some '\n'
  | .endLine => k.rest.isEmpty || k.rest.head? == some '\n'
  | .startCrlf =>
    k.before.isNone || k.before == some '\n' ||
      (k.before == some '\r' && k.rest.head? != some '\n')
  | .endCrlf =>
    k.rest.isEmpty || k.rest.head? == some '\r' ||
      (k.rest.head? == some '\n' && k.before != some '\r')
  | .boundary a => inWord a k.before != inWord a k.rest.head?
  | .notBoundary a => inWord a k.before == inWord a k.rest.head?
  | .wordStart a => !inWord a k.before && inWord a k.rest.head?
  | .wordEnd a => inWord a k.before && !inWord a k.rest.head?
  | .wordStartHalf a => !inWord a k.before
  | .wordEndHalf a => !inWord a k.rest.head?

/-- The noted places of a match, latest first. -/
abbrev Saves := List (Nat × Nat)

structure Thread where
  pc : Nat
  saves : Saves
  deriving DecidableEq, Repr

/-- What a search at one place has visited: an answer for every instruction. -/
abbrev Visited := Array Bool

namespace Program

/-- The threads that one instruction leads to without taking up a character. -/
def successors (k : Cursor) (saves : Saves) : Instr → List Thread
  | .fork a b => [⟨a, saves⟩, ⟨b, saves⟩]
  | .save slot next => [⟨next, (slot, k.pos) :: saves⟩]
  | .look l next => if l.holds k then [⟨next, saves⟩] else []
  | .take _ _ => []
  | .accept => []

/-- Whether a thread rests at an instruction, waiting for a character or accepting. -/
def rests : Instr → Bool
  | .take _ _ => true
  | .accept => true
  | _ => false

/-- Follows instructions from a list of threads, and puts the threads at rest in order of
preference behind those found before, which are given last first. Every instruction is visited at
most once, and `fresh` bounds those unvisited. -/
def spread (p : Program) (k : Cursor) (found : List Thread) :
    (fresh : Nat) → List Thread → Visited → List Thread
  | _, [], _ => found.reverse
  | 0, _, _ => found.reverse
  | fresh + 1, t :: ts, seen =>
    if seen.getD t.pc false then spread p k found (fresh + 1) ts seen
    else
      match p.code[t.pc]? with
      | none => spread p k found (fresh + 1) ts seen
      | some i =>
        spread p k (if rests i then t :: found else found) fresh (successors k t.saves i ++ ts)
          (seen.setIfInBounds t.pc true)
termination_by fresh ts => (fresh, ts.length)

/-- The threads at rest that threads lead to at a place. -/
def settle (p : Program) (k : Cursor) (ts : List Thread) : List Thread :=
  spread p k [] p.code.size ts (Array.replicate p.code.size false)

def isAccept (p : Program) (t : Thread) : Bool :=
  match p.code[t.pc]? with
  | some .accept => true
  | _ => false

def stepOver (p : Program) (c : Char) (t : Thread) : Option Thread :=
  match p.code[t.pc]? with
  | some (.take s next) => if s.contains c then some ⟨next, t.saves⟩ else none
  | _ => none

/-- The thread that begins a match. -/
def firstThread (p : Program) : Thread := ⟨p.start, []⟩

/-- Runs threads at rest over the text that follows. `best` is what has been accepted so far. -/
def run (p : Program) (pos : Nat) (best : Option Saves) (threads : List Thread) :
    Text → Option Saves
  | [] => accepted
  | c :: rest =>
    let alive := threads.takeWhile fun t => !p.isAccept t
    if alive.isEmpty && accepted.isSome then accepted
    else
      let moved := alive.filterMap (p.stepOver c)
      let fresh := if accepted.isNone then [p.firstThread] else []
      run p (pos + 1) accepted (p.settle ⟨pos + 1, some c, rest⟩ (moved ++ fresh)) rest
where
  /-- What has been accepted up to this place. -/
  accepted : Option Saves := ((threads.find? p.isAccept).map (·.saves)).or best

/-- The noted places of the first match from a place on. -/
def search (p : Program) (k : Cursor) : Option Saves :=
  p.run k.pos none (p.settle k [p.firstThread]) k.rest

end Program

end TagEdit.Regex
