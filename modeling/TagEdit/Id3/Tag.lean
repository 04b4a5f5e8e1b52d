import TagEdit.Context
import TagEdit.Field
import TagEdit.Id3.Frame

/-!
# Tags

A tag as seven fields: `get` reads a field as plain text and `set` replaces or
removes it. Most fields are one text frame. The comment is the first comment
frame and is set as a single English one. The year is kept in `TDRC` or `TYER`;
a tag with neither takes the one that its version knows.
-/

namespace TagEdit.Id3

/-- Frames in order, under a version. -/
structure Tag where
  version : Version
  frames : List Frame := []
  deriving DecidableEq, Repr

namespace Tag

/-- The tag of a file that has none. -/
def empty : Tag := { version := .v24 }

/-- Adds a frame at the end, in place of the one in its slot. -/
def add (t : Tag) (f : Frame) : Tag :=
  { t with frames := t.frames.eraseP f.sameSlot ++ [f] }

def remove (t : Tag) (id : Text) : Tag := { t with frames := t.frames.filter fun f => f.id != id }

def find? (t : Tag) (id : Text) : Option Frame := t.frames.find? fun f => f.id == id

def text? (t : Tag) (id : Text) : Option Text := (t.find? id).bind Frame.text?

def setText (t : Tag) (id : Text) (value : Text) : Tag := t.add { id, content := .text value }

/-- Sets a text frame, or removes it if the text is empty. -/
def setOrRemove (t : Tag) (id : Text) (value : Text) : Tag :=
  if value.isEmpty then t.remove id else t.setText id value

/-! ## Comments and years -/

def recordedId : Text := "TDRC".toList

def yearId : Text := "TYER".toList

def lengthId : Text := "TLEN".toList

def commentText? (f : Frame) : Option Text :=
  if f.id = commentId then
    match f.content with
    | .comment _ _ text => some text
    | _ => none
  else none

/-- Replaces all comments. -/
def setComment (t : Tag) (value : Text) : Tag :=
  let t := t.remove commentId
  if value.isEmpty then t else t.add { id := commentId, content := .comment "eng".toList [] value }

/-- The name under which a tag keeps its year. -/
def yearFrame (t : Tag) : Text :=
  if (t.find? recordedId).isSome then recordedId
  else if (t.find? yearId).isSome || t.version != .v24 then yearId
  else recordedId

def setYear (t : Tag) (value : Text) : Tag :=
  if value.isEmpty then (t.remove recordedId).remove yearId else t.setText t.yearFrame value

/-! ## Fields -/

/-- The frame of a field that is one text frame. -/
def textId? : Field → Option Text
  | .title => some "TIT2".toList
  | .artist => some "TPE1".toList
  | .album => some "TALB".toList
  | .genre => some "TCON".toList
  | .track => some "TRCK".toList
  | .comment => none
  | .year => none

def get? (t : Tag) (f : Field) : Option Text :=
  match textId? f with
  | some id => t.text? id
  | none =>
    match f with
    | .comment => t.frames.findSome? commentText?
    | _ => (t.text? recordedId).or (t.text? yearId)

/-- The value of a field; a missing one is empty. -/
def get (t : Tag) (f : Field) : Text := (t.get? f).getD []

/-- Sets a field; an empty value removes it. -/
def set (t : Tag) (f : Field) (value : Text) : Tag :=
  match textId? f with
  | some id => t.setOrRemove id value
  | none =>
    match f with
    | .comment => t.setComment value
    | _ => t.setYear value

/-! ## Length -/

/-- The largest length that is stored, in milliseconds. -/
def maxLength : Nat := 0xFFFFFFFF

/-- A number of at most 32 bits, with or without a plus sign before it. -/
def readLength (t : Text) : Option Nat :=
  let ds := if t.head? = some '+' then t.drop 1 else t
  if ds.isEmpty || !ds.all Char.isDigit || maxLength < Text.ofDigits ds then none
  else some (Text.ofDigits ds)

def length? (t : Tag) : Option Duration :=
  (match (t.find? lengthId).map Frame.content with
  | some (.text s) => readLength s
  | _ => none).map Duration.ofMillis

/-- Stores a length, or the largest one there is. -/
def setLength (t : Tag) (d : Duration) : Tag :=
  t.setText lengthId (Text.decimal (min d.millis maxLength))

end Tag

end TagEdit.Id3
