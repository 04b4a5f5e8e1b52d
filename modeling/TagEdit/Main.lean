import TagEdit.Program

/-!
# The command

Loads the files that a run can reach into a `Disk`, runs the program on it and
stores the files that the run changed. All that a run does with them is decided
in `TagEdit.Program`.
-/

namespace TagEdit

open TagEdit.Path

def Location.systemPath (loc : Location) : String :=
  String.ofList ('/' :: Path.display (List.intercalate [Symbols.slash] loc))

/-- The names in a directory of the system, if a location has one. -/
def Location.entries? (loc : Location) : IO (Option (List Bytes)) := do
  let entries ← ((← IO.currentDir) / loc.systemPath).readDir.toBaseIO
  return entries.toOption.map fun es => es.toList.map fun e => Utf8.ofString e.fileName

/-- Adds what the system has at a location, if it has something there. -/
def Disk.loadItem (d : Disk) (loc : Location) : IO Disk := do
  if (← loc.entries?).isSome then return d.put loc .directory
  match ← (IO.FS.readBinFile loc.systemPath).toBaseIO with
  | .ok content => return d.put loc (.file content.toList)
  | .error _ => return d

/-- Adds what the system has at each step of a path. -/
def Disk.loadPath (d : Disk) (path : FilePath) : IO Disk := do
  let mut disk := d
  let mut loc := d.start path
  for piece in pieces path do
    match component? piece with
    | some .parent => loc := loc.dropLast
    | some (.name name) =>
      loc := loc ++ [name]
      disk ← disk.loadItem loc
    | _ => pure ()
  return disk

/-- The working directory of the process, with nothing in it. -/
def Disk.working : IO Disk := do
  let path := Utf8.ofString (← IO.currentDir).toString
  return Disk.within ((pieces path).filter fun p => (component? p).isSome)

/-- The paths that a run without paths may process: the pattern is asked as if every entry of the
working directory were a file. -/
def Disk.candidates (d : Disk) : IO (List FilePath) := do
  let names := (← d.here.entries?).getD []
  let listed := names.foldl (fun d n => d.put (d.here ++ [n]) (.file [])) d
  return (Glob.resolveInputs listed []).toOption.getD []

/-- The files that a run with some arguments can reach. -/
def Disk.forRun (args : List Bytes) : IO Disk := do
  let d ← Disk.working
  match CommandLine.parse args with
  | .error _ => return d
  | .ok c =>
    let paths ← if c.files.isEmpty then d.candidates else pure c.files
    paths.foldlM Disk.loadPath d

/-- Stores the files that differ from what they were. -/
def Disk.store (before after : Disk) : IO Unit :=
  for (loc, item) in after.items do
    match item with
    | .directory => pure ()
    | .file content =>
      if before.item? loc != some item then
        IO.FS.writeBinFile loc.systemPath ⟨content.toArray⟩

end TagEdit

open TagEdit in
def main (args : List String) : IO UInt32 := do
  let args := args.map Utf8.ofString
  let before ← Disk.forRun args
  let outcome := runProgram before args
  before.store outcome.disk
  IO.print (String.ofList outcome.out)
  IO.eprint (String.ofList outcome.err)
  return outcome.status.code.toUInt32
