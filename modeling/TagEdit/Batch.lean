import TagEdit.Editor
import TagEdit.Report

/-!
# Editing many files

For every path in order: open the file, run the seven editors on its fields,
report what changes, save once if anything did, release the file. A failure to
open or to save is reported and counted, and the next path follows. What is done
to the store (`Op`) and what is told to the user (`Report.Call`) are returned
as data.
-/

namespace TagEdit

open TagEdit.Path

/-- Why a file could not be opened or saved. -/
inductive TagError where
  | io (message : Text)
  | notAFile
  | read (detail : Text)
  | probe (detail : Text)
  | noAudioTrack
  | write (detail : Text)
  deriving DecidableEq, Repr

def TagError.message : TagError → Text
  | .io message => message
  | .notAFile => "not a regular file".toList
  | .read detail => "cannot read ID3 tag: ".toList ++ detail
  | .probe detail => "not an MPEG audio file: ".toList ++ detail
  | .noAudioTrack => "no audio track found".toList
  | .write detail => "cannot write ID3 tag: ".toList ++ detail

/-- A store of tags, in which `World` is what it holds and `Handle` an open file. -/
structure Backend (World Handle : Type) where
  openFile : FilePath → World → Except TagError Handle
  get : Handle → Field → Text
  /-- Stages a value; an empty one removes the field. -/
  set : Handle → Field → Text → Handle
  duration : Handle → Duration
  /-- Stages the length of the audio. -/
  updateLength : Handle → Handle
  /-- Makes everything staged permanent. -/
  save : Handle → World → Except TagError World

inductive Op where
  | opened (path : FilePath)
  | updateLength
  | get (field : Field)
  | set (field : Field) (value : Text)
  | save
  | close (path : FilePath)
  deriving DecidableEq, Repr

structure RunOptions where
  /-- Report only, save nothing. -/
  dryRun : Bool := false
  /-- Store the length of the audio too. -/
  updateLength : Bool := false
  deriving DecidableEq, Repr

/-- How a file that was opened ended. -/
inductive FileStatus where
  | unchanged
  | updated
  deriving DecidableEq, Repr

/-- A file under edit: what is staged, what was done and told, and how many changes there are. -/
structure Session (Handle : Type) where
  handle : Handle
  ops : List Op := []
  calls : List Report.Call := []
  changes : Nat := 0

/-- What became of one path. -/
structure FileRun (World : Type) where
  world : World
  ops : List Op := []
  calls : List Report.Call := []
  outcome : Except TagError FileStatus

namespace Session

variable {World Handle : Type}

/-- Stages the length of the audio, if that is asked for. -/
def start (b : Backend World Handle) (o : RunOptions) (h : Handle) : Session Handle :=
  if o.updateLength && !o.dryRun then
    { handle := b.updateLength h, ops := [.updateLength], changes := 1 }
  else { handle := h }

def edit (b : Backend World Handle) (editors : EditorSet) (o : RunOptions) (ctx : Context)
    (s : Session Handle) (f : Field) : Session Handle :=
  let old := b.get s.handle f
  let new := (editors.get f).apply ctx old
  if new = old then { s with ops := s.ops ++ [.get f] }
  else
    { handle := if o.dryRun then s.handle else b.set s.handle f new
      ops := s.ops ++ if o.dryRun then [.get f] else [.get f, .set f new]
      calls := s.calls ++ [.fieldChange f old new]
      changes := s.changes + 1 }

def editAll (b : Backend World Handle) (editors : EditorSet) (o : RunOptions) (ctx : Context)
    (s : Session Handle) : Session Handle :=
  Field.all.foldl (edit b editors o ctx) s

/-- Saves a file if that is due, and releases it. -/
def finish (b : Backend World Handle) (o : RunOptions) (path : FilePath) (w : World)
    (s : Session Handle) : FileRun World :=
  let ops := Op.opened path :: s.ops
  if s.changes = 0 then
    { world := w, ops := ops ++ [.close path], calls := s.calls ++ [.unchanged path]
      outcome := .ok .unchanged }
  else if o.dryRun then
    { world := w, ops := ops ++ [.close path], calls := s.calls, outcome := .ok .updated }
  else
    match b.save s.handle w with
    | .error e =>
      { world := w, ops := ops ++ [.save, .close path], calls := s.calls, outcome := .error e }
    | .ok w =>
      { world := w, ops := ops ++ [.save, .close path], calls := s.calls ++ [.updating path]
        outcome := .ok .updated }

end Session

variable {World Handle : Type}

/-- Runs all editors on one file. -/
def processFile (b : Backend World Handle) (editors : EditorSet) (o : RunOptions)
    (w : World) (path : FilePath) : FileRun World :=
  match b.openFile path w with
  | .error e => { world := w, outcome := .error e }
  | .ok h =>
    let s := Session.start b o h
    let ctx := Context.ofFile (display path) (b.duration s.handle)
    (s.editAll b editors o ctx).finish b o path w

structure Summary where
  processed : Nat := 0
  updated : Nat := 0
  unchanged : Nat := 0
  failed : Nat := 0
  deriving DecidableEq, Repr

namespace Summary

def hasFailures (s : Summary) : Bool := 0 < s.failed

def count (s : Summary) : Except TagError FileStatus → Summary
  | .ok .unchanged => { s with processed := s.processed + 1, unchanged := s.unchanged + 1 }
  | .ok .updated => { s with processed := s.processed + 1, updated := s.updated + 1 }
  | .error _ => { s with failed := s.failed + 1 }

end Summary

/-- What became of all paths. -/
structure BatchRun (World : Type) where
  world : World
  ops : List Op := []
  calls : List Report.Call := []
  summary : Summary := {}

/-- Adds what became of one more path; a failure is told. -/
def BatchRun.add (r : BatchRun World) (path : FilePath) (f : FileRun World) : BatchRun World :=
  { world := f.world
    ops := r.ops ++ f.ops
    calls := r.calls ++ f.calls ++
      match f.outcome with
      | .error e => [.failure path e.message]
      | .ok _ => []
    summary := r.summary.count f.outcome }

/-- Runs all editors on every path in order. -/
def processFiles (b : Backend World Handle) (editors : EditorSet) (o : RunOptions) (w : World)
    (paths : List FilePath) : BatchRun World :=
  paths.foldl (fun r p => r.add p (processFile b editors o r.world p)) { world := w }

end TagEdit
