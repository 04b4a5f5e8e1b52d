import TagEdit.Regex.Meaning
import TagEdit.Regex.Room
import TagEdit.Regex.Search

/-!
# Regular expressions

`Regex.build` reads a pattern under options. `find?` searches a text for the
first match from a place on, `allMatches` collects successive matches, and
`replace` puts another text in place of each. Matches do not overlap, and an
empty match does not directly follow the match before it.
-/

namespace TagEdit

structure Regex where
  program : Regex.Program

namespace Regex

/-- What is said about a pattern besides its text. -/
structure Options where
  caseInsensitive : Bool := false
  multiLine : Bool := false
  dotMatchesNewLine : Bool := false
  ignoreBlanks : Bool := false
  deriving DecidableEq, Repr

/-- How many bytes a compiled pattern may take up. -/
def sizeLimit : Nat := 10485760

/-- The switches in force at the front of a pattern. -/
def Options.switches (o : Options) : Switches :=
  { caseInsensitive := o.caseInsensitive
    multiLine := o.multiLine
    dotMatchesNewLine := o.dotMatchesNewLine }

def build (o : Options) (pattern : Text) : Except Error Regex := do
  let p ← Pattern.parse o.ignoreBlanks pattern
  let n ← Node.ofPattern o.switches p
  if n.fits sizeLimit then return ⟨Program.ofNode n⟩
  else .error (.tooLarge sizeLimit)

/-- A match: the noted places of the whole and of the groups. -/
structure Match where
  start : Nat
  stop : Nat
  saves : Saves
  deriving DecidableEq, Repr

/-- The match that noted places tell of. -/
def Match.ofSaves? (saves : Saves) : Option Match := do
  return ⟨← saves.lookup 0, ← saves.lookup 1, saves⟩

/-- The characters between two places. -/
def slice (t : Text) (start stop : Nat) : Text := (t.drop start).take (stop - start)

/-- What a group has matched; `none` if it took no part or does not exist. -/
def Match.group? (m : Match) (t : Text) (n : Nat) : Option Text := do
  return slice t (← m.saves.lookup (2 * n)) (← m.saves.lookup (2 * n + 1))

def find? (r : Regex) (k : Cursor) : Option Match := (r.program.search k).bind Match.ofSaves?

def isMatch (r : Regex) (t : Text) : Bool := (r.find? (.atStart t)).isSome

/-- The first match from a place on, other than an empty one at a place already matched. -/
def findNext? (r : Regex) (k : Cursor) (last : Option Nat) : Option Match :=
  match r.find? k with
  | none => none
  | some m =>
    if m.start = m.stop ∧ last = some m.stop then
      if k.rest.isEmpty then none else r.find? k.advance
    else some m

/-- At most `limit` successive matches from a place on, where the match before them ends at
`last`. -/
def matchesFrom (r : Regex) : (limit : Nat) → Cursor → (last : Option Nat) → List Match
  | 0, _, _ => []
  | limit + 1, k, last =>
    match r.findNext? k last with
    | none => []
    | some m => m :: matchesFrom r limit (k.advanceBy (m.stop - k.pos)) (some m.stop)

def matchesUpTo (r : Regex) (limit : Nat) (t : Text) : List Match :=
  r.matchesFrom limit (.atStart t) none

/-- All successive matches in a text. There is at most one for every place. -/
def allMatches (r : Regex) (t : Text) : List Match := r.matchesUpTo (t.length + 1) t

/-- The text from `pos` on with another text in place of each match. -/
def splice (t : Text) (f : Match → Text) (pos : Nat) : List Match → Text
  | [] => t.drop pos
  | m :: ms => slice t pos m.start ++ f m ++ splice t f m.stop ms

/-- Puts another text in place of the first match, or of all. -/
def replace (r : Regex) (everywhere : Bool) (t : Text) (f : Match → Text) : Text :=
  splice t f 0 (if everywhere then r.allMatches t else r.matchesUpTo 1 t)

end Regex

end TagEdit
