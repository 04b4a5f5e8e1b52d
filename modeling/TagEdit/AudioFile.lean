import TagEdit.Batch
import TagEdit.Disk
import TagEdit.Id3.Writer
import TagEdit.Mpeg.Probe

/-!
# Audio files on disk

An audio file is opened by reading its tag and measuring its stream; a file
without a tag starts with an empty one. Edits are made to the tag in memory, and
saving puts it in place of the one on disk. `backend` is the disk as a store of
tags.
-/

namespace TagEdit

open TagEdit.Path

structure AudioFile where
  path : FilePath
  tag : Id3.Tag
  /-- The duration of the stream, if it is known. -/
  measured : Option Duration
  /-- The duration: that of the stream, or the one that the tag declares, or zero. -/
  duration : Duration
  deriving DecidableEq, Repr

namespace AudioFile

/-- The tag at the head of a file; a file without one has the empty tag. -/
def readTag (content : Bytes) : Except TagError Id3.Tag :=
  match Id3.read content with
  | .ok t => .ok t
  | .error .noTag => .ok .empty
  | .error e => .error (.read e.message)

def ofContent (path : FilePath) (content : Bytes) : Except TagError AudioFile := do
  let tag ← readTag content
  match Mpeg.probe content with
  | .error e => .error (.probe e.message)
  | .ok measured => return ⟨path, tag, measured, (measured.or tag.length?).getD .zero⟩

def openFile (path : FilePath) (d : Disk) : Except TagError AudioFile :=
  match d.resolve path with
  | .error e => .error (.io e.message)
  | .ok loc =>
    match d.item? loc with
    | some (.file content) => ofContent path content
    | _ => .error .notAFile

def get (a : AudioFile) (f : Field) : Text := a.tag.get f

def set (a : AudioFile) (f : Field) (value : Text) : AudioFile := { a with tag := a.tag.set f value }

/-- Stores the measured length in the tag, if there is one. -/
def updateLength (a : AudioFile) : AudioFile :=
  match a.measured with
  | some d => { a with tag := a.tag.setLength d }
  | none => a

def save (a : AudioFile) (d : Disk) : Except TagError Disk :=
  match d.resolve a.path with
  | .error e => .error (.write e.message)
  | .ok loc =>
    match d.item? loc with
    | some (.file content) =>
      match Id3.replace a.tag content with
      | .error e => .error (.write e.message)
      | .ok content => .ok (d.put loc (.file content))
    | _ => .error (.write "not a regular file".toList)

/-- The disk as a store of tags. -/
def backend : Backend Disk AudioFile where
  openFile := openFile
  get := get
  set := set
  duration := duration
  updateLength := updateLength
  save := save

end AudioFile

end TagEdit
