import TagEdit.Editor

/-!
# Command lines

Reads the arguments of the program. Switches may be gathered behind one hyphen,
a value follows its option or is attached to it, and after `--` every argument
is a file. Values are gathered option by option, each with its place on the
command line; `Matches.registry` registers the fragments of all options in the
order of their places.

A value that follows its option, and the files in a row, are held back until
the next option or the end; only then are they checked. An unknown option is
therefore found before a fault in what is held back.
-/

namespace TagEdit

open TagEdit.Path

/-- Why a command line is not run. -/
inductive UsageError where
  | unknownArgument
  | invalidValue
  | argumentConflict
  | tooManyValues
  | invalidUtf8
  /-- The user asks for help. -/
  | displayHelp
  /-- The user asks for the version. -/
  | displayVersion
  deriving DecidableEq, Repr

/-- An option without a value, to be given at most once. -/
inductive Switch where
  | dryRun
  | quiet
  | updateLength
  | check
  | noCheck
  | debug
  | noDebug
  deriving DecidableEq, Repr

/-- The switch that another one takes back. -/
def Switch.opposite? : Switch → Option Switch
  | .check => some .noCheck
  | .noCheck => some .check
  | .debug => some .noDebug
  | .noDebug => some .debug
  | _ => none

/-- An option whose value is registered for a field. -/
inductive FieldOption where
  | expression (f : Field)
  | literal (f : Field)
  deriving DecidableEq, Repr

inductive CliOption where
  | field (o : FieldOption)
  | ascii
  | switch (s : Switch)
  | help
  | version
  deriving DecidableEq, Repr

/-! ## Values and their places -/

namespace FieldOption

def all : List FieldOption := Field.all.flatMap fun f => [.expression f, .literal f]

/-- What is registered for a value, and for which field. -/
def entry (o : FieldOption) (text : Text) : Target × Fragment :=
  match o with
  | .expression f => (.one f, .expression text)
  | .literal f => (.one f, .literal text)

end FieldOption

def CliOption.valued : List CliOption := FieldOption.all.map .field ++ [.ascii]

/-- Registers a fragment for one field or for all. -/
def Registry.add (r : Registry) : Target × Fragment → Registry
  | (.one f, frag) => r.register f frag
  | (.every, frag) => r.registerAll frag

/-- The values of the options, in the order in which each option has them, and the places of these
values on the command line. -/
structure Matches where
  places : CliOption → List Nat := fun _ => []
  texts : FieldOption → List Text := fun _ => []
  /-- Whether an occurrence of the option asks for plain ASCII. -/
  ascii : List Bool := []
  /-- How many values there are. -/
  count : Nat := 0

namespace Matches

/-- Gives the next place to a value of an option. -/
def place (m : Matches) (o : CliOption) : Matches :=
  { m with
    places := fun p => if p = o then m.places p ++ [m.count] else m.places p
    count := m.count + 1 }

def addText (m : Matches) (o : FieldOption) (text : Text) : Matches :=
  { m.place (.field o) with
    texts := fun p => if p = o then m.texts p ++ [text] else m.texts p }

def addAscii (m : Matches) (on : Bool) : Matches :=
  { m.place .ascii with ascii := m.ascii ++ [on] }

/-- What is registered for the values of an option, each with its place. -/
def entriesOf (m : Matches) : CliOption → List (Nat × Target × Fragment)
  | .field o => ((m.places (.field o)).zip (m.texts o)).map fun v => (v.1, o.entry v.2)
  | .ascii => ((m.places .ascii).zip m.ascii).filterMap fun v =>
      if v.2 then some (v.1, .every, .expression asciiOnly) else none
  | _ => []

/-- What is registered for the values of all options, option by option. -/
def entries (m : Matches) : List (Nat × Target × Fragment) :=
  CliOption.valued.flatMap m.entriesOf

/-- The fragments in the order of their places. -/
def registry (m : Matches) : Registry :=
  ((m.entries.mergeSort fun a b => a.1 ≤ b.1).map Prod.snd).foldl Registry.add .empty

end Matches

/-- What the arguments ask for. -/
structure CommandLine where
  /-- The switches in force, the latest first. -/
  switches : List Switch := []
  values : Matches := {}
  files : List FilePath := []

namespace CommandLine

def registry (c : CommandLine) : Registry := c.values.registry

def has (c : CommandLine) (s : Switch) : Bool := c.switches.contains s

def dryRun (c : CommandLine) : Bool := c.has .dryRun

def quiet (c : CommandLine) : Bool := c.has .quiet

def updateLength (c : CommandLine) : Bool := c.has .updateLength

def check (c : CommandLine) : Bool := c.has .check

def debug (c : CommandLine) : Bool := c.has .debug

/-- Turns a switch on, and its opposite off. -/
def turnOn (c : CommandLine) (s : Switch) : Except UsageError CommandLine :=
  if c.has s then .error .argumentConflict
  else .ok { c with switches := s :: c.switches.filter fun t => s.opposite? != some t }

def addValue (c : CommandLine) (o : FieldOption) (value : Bytes) : Except UsageError CommandLine :=
  match Utf8.decode? value with
  | none => .error .invalidUtf8
  | some text => .ok { c with values := c.values.addText o text }

/-- Takes in whether characters outside of printable ASCII are to be removed. -/
def addAscii (c : CommandLine) (value : Option Bytes) : Except UsageError CommandLine :=
  if value.all (· == Utf8.ofString "true") then .ok { c with values := c.values.addAscii true }
  else if value == some (Utf8.ofString "false") then
    .ok { c with values := c.values.addAscii false }
  else .error .invalidValue

end CommandLine

/-! ## Names of options -/

/-- The letters of a field: for an expression and for a fixed value. -/
def Field.letters : Field → Char × Char
  | .title => ('T', 't')
  | .artist => ('A', 'a')
  | .album => ('L', 'l')
  | .genre => ('G', 'g')
  | .track => ('K', 'k')
  | .comment => ('C', 'c')
  | .year => ('Y', 'y')

namespace CliOption

def ofLetter? (c : Char) : Option CliOption :=
  match c with
  | 'u' => some (.switch .updateLength)
  | 'n' => some (.switch .dryRun)
  | 'q' => some (.switch .quiet)
  | 'h' => some .help
  | 'V' => some .version
  | c =>
    match Field.all.find? fun f => f.letters.1 == c with
    | some f => some (.field (.expression f))
    | none => (Field.all.find? fun f => f.letters.2 == c).map fun f => .field (.literal f)

def ofName? (name : Text) : Option CliOption :=
  match String.ofList name with
  | "ascii" => some .ascii
  | "update-length" => some (.switch .updateLength)
  | "dry-run" => some (.switch .dryRun)
  | "check" => some (.switch .check)
  | "no-check" => some (.switch .noCheck)
  | "quiet" => some (.switch .quiet)
  | "debug" => some (.switch .debug)
  | "no-debug" => some (.switch .noDebug)
  | "help" => some .help
  | "version" => some .version
  | s =>
    match Field.ofName? s with
    | some f => some (.field (.expression f))
    | none =>
      (Field.all.find? fun f => "set-" ++ f.name == s).map fun f => .field (.literal f)

end CliOption

/-! ## Reading -/

/-- What is held back until the next option or the end. -/
inductive Pending where
  | nothing
  | value (o : FieldOption) (v : Option Bytes)
  | files (fs : List FilePath)
  deriving DecidableEq, Repr

/-- A command line of which some arguments have been read. -/
structure Reading where
  line : CommandLine := {}
  pending : Pending := .nothing
  /-- Whether only files follow. -/
  trailing : Bool := false

namespace Reading

/-- Checks and takes in what is held back. -/
def settle (r : Reading) : Except UsageError Reading :=
  match r.pending with
  | .nothing => .ok r
  | .value _ none => .error .invalidValue
  | .value o (some v) => (r.line.addValue o v).map fun line => { r with line, pending := .nothing }
  | .files fs =>
    if fs.any List.isEmpty then .error .invalidValue
    else .ok { r with line := { r.line with files := r.line.files ++ fs }, pending := .nothing }

/-- Changes the command line after taking in what is held back. -/
def update (r : Reading) (f : CommandLine → Except UsageError CommandLine) :
    Except UsageError Reading := do
  let r ← r.settle
  return { r with line := ← f r.line }

/-- Takes in an option that stands without a value. -/
def takeOption (r : Reading) : CliOption → Except UsageError Reading
  | .field o => do return { ← r.settle with pending := .value o none }
  | .ascii => r.update fun c => c.addAscii none
  | .switch s => r.update fun c => c.turnOn s
  | .help => do
    let _ ← r.settle
    .error .displayHelp
  | .version => do
    let _ ← r.settle
    .error .displayVersion

/-- Takes in an option with the value attached to it. -/
def takeAttached (r : Reading) (value : Bytes) : CliOption → Except UsageError Reading
  | .field o => r.update fun c => c.addValue o value
  | .ascii => r.update fun c => c.addAscii (some value)
  | _ => .error .tooManyValues

/-- The part of an argument before the first equals sign, and the part after it. -/
def splitEquals (bs : Bytes) : Bytes × Option Bytes :=
  match bs.dropWhile (· != 61) with
  | [] => (bs, none)
  | _ :: value => (bs.takeWhile (· != 61), some value)

/-- Takes in an argument that begins with two hyphens, which are left out here. -/
def takeLong (r : Reading) (bs : Bytes) : Except UsageError Reading :=
  let (name, value) := splitEquals bs
  match (Utf8.decode? name).bind CliOption.ofName? with
  | none => .error .unknownArgument
  | some o =>
    match value with
    | none => r.takeOption o
    | some v => r.takeAttached v o

/-- Takes in the letters behind a single hyphen. What follows the letter of an option with a value
is its value, an equals sign between them left out. -/
def takeLetters (r : Reading) : Bytes → Except UsageError Reading
  | [] => .ok r
  | b :: bs =>
    let piece := Utf8.readPiece b bs
    have : piece.2.length < (b :: bs).length := Nat.lt_succ_of_le (Utf8.readPiece_length_le b bs)
    match piece.1.bind CliOption.ofLetter? with
    | none => .error .unknownArgument
    | some (.field o) =>
      match piece.2 with
      | [] => r.takeOption (.field o)
      | 61 :: value => r.takeAttached value (.field o)
      | value => r.takeAttached value (.field o)
    | some o => do
      let r ← r.takeOption o
      r.takeLetters piece.2
termination_by bs => bs.length
decreasing_by assumption

/-- Takes in an argument that is no option: the value of the option before it, or a file. -/
def takePlain (r : Reading) (arg : Bytes) : Except UsageError Reading :=
  match r.pending with
  | .files fs => .ok { r with pending := .files (fs ++ [arg]) }
  | .value o none =>
    if r.trailing then r.settle else .ok { r with pending := .value o (some arg) }
  | _ => do return { ← r.settle with pending := .files [arg] }

def take (r : Reading) (arg : Bytes) : Except UsageError Reading :=
  if r.trailing then r.takePlain arg
  else
    match arg with
    | [45, 45] => .ok { r with trailing := true }
    | 45 :: 45 :: long => r.takeLong long
    | 45 :: b :: letters => r.takeLetters (b :: letters)
    | arg => r.takePlain arg

/-- Takes in arguments in order, and at the end what is held back. -/
def takeAll (r : Reading) : List Bytes → Except UsageError CommandLine
  | [] => r.settle.map Reading.line
  | arg :: args => do (← r.take arg).takeAll args

end Reading

def CommandLine.parse (args : List Bytes) : Except UsageError CommandLine :=
  Reading.takeAll {} args

end TagEdit
