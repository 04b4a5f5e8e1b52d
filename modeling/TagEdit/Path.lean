import TagEdit.Text.Utf8

/-!
# Paths

A path is a sequence of symbols, characters or bytes, that slashes divide.
Repeated slashes and components of a single dot are dropped, a leading dot
excepted; `components` gives the rest. `fileName` is the last component if it is
a name, and `stem` is a name up to its last dot, if that does not open the
name. Paths are ordered component by component.
-/

namespace TagEdit.Path

/-- The two symbols that structure a path. -/
class Symbols (α : Type) where
  slash : α
  dot : α

instance : Symbols Char where
  slash := '/'
  dot := '.'

instance : Symbols UInt8 where
  slash := 47
  dot := 46

variable {α : Type} [DecidableEq α] [Symbols α]

open Symbols

inductive Component (α : Type) where
  | root
  | current
  | parent
  | name (symbols : List α)
  deriving DecidableEq, Repr

/-- The pieces between slashes; there is one more of them than slashes. -/
def pieces : List α → List (List α)
  | [] => [[]]
  | c :: rest =>
    if c = slash then [] :: pieces rest
    else match pieces rest with
      | [] => [[c]]
      | p :: ps => (c :: p) :: ps

/-- The component that a piece stands for, if it stands for one. -/
def component? (piece : List α) : Option (Component α) :=
  if piece = [] ∨ piece = [dot] then none
  else if piece = [dot, dot] then some .parent
  else some (.name piece)

def isAbsolute (path : List α) : Bool := path.head? == some slash

def components (path : List α) : List (Component α) :=
  let inner := (pieces path).filterMap component?
  if isAbsolute path then .root :: inner
  else if (pieces path).head? = some [dot] then .current :: inner
  else inner

/-- The last component, if it is a name. -/
def fileName? (path : List α) : Option (List α) :=
  match (components path).getLast? with
  | some (.name n) => some n
  | _ => none

/-- A name without what follows its last dot; a dot that opens the name does not count. -/
def nameStem (name : List α) : List α :=
  match (name.reverse.dropWhile (· != dot)).drop 1 with
  | [] => name
  | before => before.reverse

/-- The last component or nothing. -/
def baseName (path : List α) : List α := (fileName? path).getD []

/-- The stem of the last component or nothing. -/
def stem (path : List α) : List α := ((fileName? path).map nameStem).getD []

/-! ## Order -/

/-- A path of bytes, as the file system knows it. -/
abbrev FilePath := Bytes

/-- The place of a kind of component in the order. -/
def Component.rank : Component α → Nat
  | .root => 0
  | .current => 1
  | .parent => 2
  | .name _ => 3

/-- Lexicographic comparison of bytes. -/
def compareBytes : Bytes → Bytes → Ordering
  | [], [] => .eq
  | [], _ :: _ => .lt
  | _ :: _, [] => .gt
  | a :: as, b :: bs => (compare a.toNat b.toNat).then (compareBytes as bs)

def compareComponents : Component UInt8 → Component UInt8 → Ordering
  | .name a, .name b => compareBytes a b
  | a, b => compare a.rank b.rank

def compareLists : List (Component UInt8) → List (Component UInt8) → Ordering
  | [], [] => .eq
  | [], _ :: _ => .lt
  | _ :: _, [] => .gt
  | a :: as, b :: bs => (compareComponents a b).then (compareLists as bs)

/-- The order of paths: by components, names bytewise. -/
def compareFiles (p q : FilePath) : Ordering := compareLists (components p) (components q)

/-- Whether two paths have the same components. -/
def same (p q : FilePath) : Bool := components p == components q

def join (path piece : FilePath) : FilePath :=
  match path.getLast? with
  | none => piece
  | some last => if last = slash then path ++ piece else path ++ slash :: piece

def display (p : FilePath) : Text := Utf8.decodeLossy p

end TagEdit.Path
