import TagEdit.Path

/-!
# Directory trees

A disk holds files and directories below a root, each under the names that lead
down to it, and one of the directories is the working directory. `resolve`
follows a path from there or from the root; the parent of the root is the root.
`item?_put` says what a change to one item does to all.
-/

namespace TagEdit

open TagEdit.Path

/-- The names that lead from the root down to an item. -/
abbrev Location := List Bytes

inductive Item where
  | file (content : Bytes)
  | directory
  deriving DecidableEq, Repr

/-- Files and directories, and the working directory. -/
structure Disk where
  items : List (Location × Item) := []
  here : Location := []
  deriving DecidableEq, Repr

/-- Why a path leads nowhere. -/
inductive PathFault where
  | notFound
  /-- More of the path follows the name of a file. -/
  | notADirectory
  | tooLong
  /-- The path has a byte zero. -/
  | zeroByte
  deriving DecidableEq, Repr

def PathFault.message : PathFault → Text
  | .notFound => "No such file or directory (os error 2)".toList
  | .notADirectory => "Not a directory (os error 20)".toList
  | .tooLong => "File name too long (os error 36)".toList
  | .zeroByte => "file name contained an unexpected NUL byte".toList

namespace Disk

/-- The limits on a name and on a path, in bytes. -/
def maxName : Nat := 255

def maxPath : Nat := 4095

def item? (d : Disk) (loc : Location) : Option Item :=
  if loc = [] then some .directory
  else (d.items.find? fun i => i.1 == loc).map Prod.snd

/-! ## Following paths -/

/-- Where a path starts. -/
def start (d : Disk) (path : FilePath) : Location := if isAbsolute path then [] else d.here

/-- Follows one name out of a directory. -/
def stepInto (d : Disk) (loc : Location) (name : Bytes) : Except PathFault Location :=
  if maxName < name.length then .error .tooLong
  else if (d.item? (loc ++ [name])).isSome then .ok (loc ++ [name])
  else .error .notFound

/-- Follows one piece of a path. -/
def step (d : Disk) (loc : Location) (piece : Bytes) : Except PathFault Location :=
  if d.item? loc != some .directory then .error .notADirectory
  else
    match component? piece with
    | some .parent => .ok loc.dropLast
    | some (.name name) => d.stepInto loc name
    | _ => .ok loc

def resolve (d : Disk) (path : FilePath) : Except PathFault Location :=
  if path.contains 0 then .error .zeroByte
  else if path = [] then .error .notFound
  else if maxPath < path.length then .error .tooLong
  else (pieces path).foldlM d.step (d.start path)

def location? (d : Disk) (path : FilePath) : Option Location := (d.resolve path).toOption

def lookup (d : Disk) (path : FilePath) : Option Item := (d.location? path).bind d.item?

def pathExists (d : Disk) (path : FilePath) : Bool := (d.lookup path).isSome

def isDirectory (d : Disk) (path : FilePath) : Bool := d.lookup path == some .directory

/-- The content of a regular file. -/
def content? (d : Disk) (path : FilePath) : Option Bytes :=
  match d.lookup path with
  | some (.file content) => some content
  | _ => none

/-- What lies below a location, by the names that lead there. -/
def below (d : Disk) (loc : Location) : List (Location × Item) :=
  d.items.filterMap fun i =>
    if loc.isPrefixOf i.1 && i.1 != loc then some (i.1.drop loc.length, i.2) else none

def names (d : Disk) (loc : Location) : List Bytes :=
  (d.below loc).filterMap fun i =>
    match i.1 with
    | [name] => some name
    | _ => none

/-! ## Changes -/

/-- Puts an item in place of the one at its location, or at the end. -/
def putInto (loc : Location) (item : Item) : List (Location × Item) → List (Location × Item)
  | [] => [(loc, item)]
  | i :: is => if i.1 = loc then (loc, item) :: is else i :: putInto loc item is

def put (d : Disk) (loc : Location) (item : Item) : Disk :=
  { d with items := putInto loc item d.items }

def remove (d : Disk) (loc : Location) : Disk :=
  { d with items := d.items.filter fun i => i.1 != loc }

/-- Adds an item below directories that are added too where they are missing. -/
def addBelow (d : Disk) (parent : Location) (item : Item) : Location → Disk
  | [] => d
  | [name] => d.put (parent ++ [name]) item
  | name :: names =>
    let loc := parent ++ [name]
    let d := if (d.item? loc).isSome then d else d.put loc .directory
    d.addBelow loc item names

/-- Adds an item and the directories on the way to it. -/
def add (d : Disk) (path : FilePath) (item : Item) : Disk :=
  d.addBelow [] item (d.start path ++ (pieces path).filter fun p => (component? p).isSome)

/-- A disk with nothing but a working directory. -/
def within (here : Location) : Disk := addBelow { here } [] .directory here

theorem item?_put (d : Disk) (loc : Location) (item : Item) (other : Location)
    (h : other ≠ []) :
    (d.put loc item).item? other = if other = loc then some item else d.item? other := by
  obtain ⟨items, here⟩ := d
  simp only [put, item?, h, ↓reduceIte]
  induction items with
  | nil =>
    by_cases ho : loc = other
    · simp [putInto, ho]
    · simp [putInto, ho, Ne.symm ho]
  | cons i is ih =>
    by_cases hi : i.1 = loc
    · by_cases ho : loc = other
      · simp [putInto, hi, ho]
      · simp [putInto, hi, ho, Ne.symm ho]
    · by_cases ho : i.1 = other
      · have : ¬ other = loc := ho ▸ hi
        simp [putInto, ho, this]
      · simpa [putInto, hi, ho] using ih

end Disk

end TagEdit
