import TagEdit.Id3.Reader

/-!
# Writing tags

Version 2.2 is written as 2.3. A frame keeps its character set; a new one is
written in UTF-8 in version 2.4 and in two-byte units before it, where several
values of a text are divided by slashes.
`replace` puts a tag in the place of the one at the head of a file and keeps
what follows it.
-/

namespace TagEdit.Id3

open Binary

/-- The version in which a tag is written. -/
def Version.written : Version → Version
  | .v22 => .v23
  | v => v

/-- The character set of new frames. -/
def Version.charset : Version → Charset
  | .v24 => .utf8
  | _ => .utf16

def Version.sizeBase : Version → Nat
  | .v24 => 128
  | _ => 256

/-- A text with its description before it. -/
def writeDescribed (cs : Charset) (description text : Text) : Bytes :=
  cs.encode description ++ cs.terminator ++ cs.encode text

def writeContent (v : Version) (cs : Charset) : Content → Bytes
  | .text t =>
    let t := if v = .v24 then t else t.map fun c => if c = '\x00' then '/' else c
    cs.toByte :: cs.encode t
  | .link t => Utf8.encode t
  | .comment language description text =>
    cs.toByte :: (Charset.latin1.encode language ++ [32, 32, 32]).take 3 ++
      writeDescribed cs description text
  | .record _ data => data

/-- The first size that is too large for a tag. -/
def sizeLimit : Nat := 0x10000000

def writeFrame (v : Version) (f : Frame) : Except Fault Bytes :=
  let id := Utf8.encode f.id
  let data := writeContent v (f.charset.getD v.charset) f.content
  if id.length != 4 then .error (.unnamed f.id)
  else if sizeLimit ≤ data.length then .error .tooLarge
  else .ok (id ++ encode v.sizeBase 4 data.length ++ [0, 0] ++ data)

def writeFrames (v : Version) : List Frame → Except Fault Bytes
  | [] => .ok []
  | f :: fs => do return (← writeFrame v f) ++ (← writeFrames v fs)

def write (v : Version) (t : Tag) : Except Fault Bytes := do
  let body ← writeFrames v t.frames
  if sizeLimit ≤ body.length then .error .tooLarge
  else
    return [0x49, 0x44, 0x33, UInt8.ofNat v.minor, 0, 0] ++ encode 128 4 body.length ++ body

/-- What follows the tag of a file. -/
def audio (file : Bytes) : Except Fault Bytes :=
  match readHeader file with
  | .ok h => .ok (h.rest.drop h.size)
  | .error .noTag => .ok file
  | .error e => .error e

/-- Puts a tag in place of the one of a file. -/
def replace (t : Tag) (file : Bytes) : Except Fault Bytes := do
  let audio ← audio file
  return (← write t.version.written t) ++ audio

end TagEdit.Id3
