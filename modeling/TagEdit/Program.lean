import TagEdit.AudioFile
import TagEdit.CommandLine
import TagEdit.Glob

/-!
# The program

A run of the program as a function: from the files and the arguments to the
files afterwards, the exit status and the texts on both streams. Faulty
arguments, an expression that does not compile and a lack of input end the run
before any file is opened.
-/

namespace TagEdit

open TagEdit.Path

inductive ExitStatus where
  | success
  /-- A file could not be opened or saved. -/
  | fileFailed
  /-- Nothing could be run. -/
  | fatal
  /-- The run broke down. -/
  | brokenDown
  deriving DecidableEq, Repr

def ExitStatus.code : ExitStatus → Nat
  | .success => 0
  | .fileFailed => 1
  | .fatal => 2
  | .brokenDown => 101

/-- What a run leaves behind. -/
structure Outcome where
  disk : Disk
  status : ExitStatus
  out : Text := []
  err : Text := []
  deriving DecidableEq, Repr

/-! ## Messages -/

def programName : String := "retag"

/-- A line that names the program. -/
def programLine (message : Text) : Text := programName.toList ++ ": ".toList ++ message ++ ['\n']

/-- The end of a run in which nothing is done. -/
def Outcome.failed (d : Disk) (message : Text) : Outcome :=
  { disk := d, status := .fatal, err := programLine message }

/-- The end of a run that breaks down on a name that is no text. -/
def Outcome.brokenDown (d : Disk) : Outcome :=
  { disk := d, status := .brokenDown, err := "a file name is not valid UTF-8\n".toList }

/-- The wording of a pattern's error on the error stream. -/
def regexReport : Regex.Error → String
  | .tooLarge limit => Regex.Error.message (.tooLarge limit)
  | e => "regex parse error:\nerror: " ++ e.message

/-- The warning of a run without edits. -/
def noEditsWarning : Text := " WARN no edits given; files will only be reported\n".toList

def UsageError.message : UsageError → Text
  | .unknownArgument => "unknown argument".toList
  | .invalidValue => "invalid value".toList
  | .argumentConflict => "argument given twice".toList
  | .tooManyValues => "value given to a switch".toList
  | .invalidUtf8 => "value is not UTF-8".toList
  | .displayHelp => "usage: retag [OPTIONS] [FILES]...\n".toList
  | .displayVersion => "retag 0.1.0\n".toList

/-- The end of a run with arguments that ask for nothing to be done. -/
def UsageError.outcome (d : Disk) (e : UsageError) : Outcome :=
  match e with
  | .displayHelp => { disk := d, status := .success, out := e.message }
  | .displayVersion => { disk := d, status := .success, out := e.message }
  | e => { disk := d, status := .fatal, err := "error: ".toList ++ e.message ++ ['\n'] }

/-! ## The self test -/

/-- Whether a tag can be written so that it begins with the mark of a tag. -/
def selfTest : Bool :=
  match Id3.write .v24 (Id3.Tag.empty.set .title programName.toList) with
  | .ok bytes => (Utf8.ofString "ID3").isPrefixOf bytes
  | .error _ => false

/-- The end of a run that only tests. -/
def checkOutcome (d : Disk) (quiet : Bool) : Outcome :=
  if selfTest then
    { disk := d, status := .success
      out := if quiet then [] else programLine "dependencies ok".toList }
  else Outcome.failed d "malformed tag header".toList

/-! ## Runs -/

def CommandLine.runOptions (c : CommandLine) : RunOptions :=
  { dryRun := c.dryRun, updateLength := c.updateLength }

def editFiles (d : Disk) (c : CommandLine) (editors : EditorSet) (files : List FilePath) : Outcome :=
  let r := processFiles AudioFile.backend editors c.runOptions d files
  let told := Report.deliver c.quiet Report.Sink.working r.calls
  { disk := r.world
    status := if r.summary.hasFailures then .fileFailed else .success
    out := told.out
    err := told.err }

def runLine (d : Disk) (c : CommandLine) : Outcome :=
  match c.registry.compile with
  | .error e => Outcome.failed d (e.messageWith regexReport)
  | .ok editors =>
    if c.check then checkOutcome d c.quiet
    else
      let warning := if editors.isIdentity && !c.updateLength then noEditsWarning else []
      let outcome := if Glob.breaksDown d c.files then Outcome.brokenDown d
        else match Glob.resolveInputs d c.files with
          | .error e => Outcome.failed d e.message
          | .ok files => editFiles d c editors files
      { outcome with err := warning ++ outcome.err }

def runProgram (d : Disk) (args : List Bytes) : Outcome :=
  match CommandLine.parse args with
  | .error e => e.outcome d
  | .ok c => runLine d c

end TagEdit
