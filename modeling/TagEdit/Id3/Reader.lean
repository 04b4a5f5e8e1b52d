import TagEdit.Deflate
import TagEdit.Id3.Record
import TagEdit.Id3.Tag

/-!
# Reading tags

A tag stands at the head of a file: ten bytes of header, then frames, then
padding. Reading stops at a frame whose name begins with a zero byte and where
the declared size is used up; the last frame may reach beyond that. A file
without a header has no tag, and a fault in any frame is a fault of the tag.
-/

namespace TagEdit.Id3

open Binary

/-- Why a tag cannot be read or written. -/
inductive Fault where
  | noTag
  | version (major : Nat)
  | headerFlags
  | compressed
  | extendedHeader
  | frameId
  | frameFlags
  | compression
  | content (id : Text)
  /-- The frame has no name in the version to write. -/
  | unnamed (id : Text)
  | tooLarge
  deriving DecidableEq, Repr

def Fault.message : Fault → Text
  | .noTag => "no tag".toList
  | .version n => "unsupported version 2.".toList ++ Text.decimal n
  | .headerFlags => "unknown header flags".toList
  | .compressed => "compressed tag".toList
  | .extendedHeader => "malformed extended header".toList
  | .frameId => "malformed frame name".toList
  | .frameFlags => "unsupported frame flags".toList
  | .compression => "malformed compressed content".toList
  | .content id => "malformed content of ".toList ++ id
  | .unnamed id => "no name for ".toList ++ id
  | .tooLarge => "tag too large".toList

/-- Takes out the zero bytes that keep tags free of the marks of audio frames. -/
def resync : Bytes → Bytes
  | 0xFF :: 0 :: rest => 0xFF :: resync rest
  | b :: rest => b :: resync rest
  | [] => []

/-! ## Contents -/

/-- A content and the character set that it is in. -/
abbrev Decoded := Content × Option Charset

/-- Reads a text behind the byte of its character set. Below version 2.4 it ends at the first
terminator. -/
def readText (v : Version) (id : Text) : Bytes → Option Decoded
  | [] => none
  | b :: body => do
    let cs ← Charset.ofByte? b
    match v with
    | .v24 => return (.text (← cs.decode? (cs.trimTerminators body)), some cs)
    | _ =>
      let t ← cs.decode? (cs.untilTerminator body)
      return (.text (if listsValues id then t.map fun c => if c = '/' then '\x00' else c else t),
        some cs)

def readComment : Bytes → Option Decoded
  | b :: l₁ :: l₂ :: l₃ :: body => do
    let cs ← Charset.ofByte? b
    let (description, text) ← readCaption? cs body
    return (.comment (ofBytes [l₁, l₂, l₃]) description (← cs.decode? text), some cs)
  | _ => none

/-- Reads a record. Which bytes may be frames is given. -/
def readRecord (framesFit : Bytes → Bool) (l : Layout) (data : Bytes) : Option Decoded :=
  (l.read? framesFit data).map fun r => (.record r.2 data, r.1)

/-- A picture of version 2.2 as later versions write it: they give the type of the picture by a name
and not by three letters. -/
def modernPicture : Bytes → Bytes
  | b :: x :: y :: z :: rest => b :: Utf8.ofString "image/" ++ [x, y, z, 0] ++ rest
  | _ => []

/-- Reads the content of a frame of a given name. Which bytes may be frames is given. -/
def readContent (framesFit : Bytes → Bool) (v : Version) (id : Text) (data : Bytes) :
    Option Decoded :=
  if id = commentId then readComment data
  else if id = groupingId then readText v id data
  else if id = pictureId && v = .v22 then
    readRecord framesFit ((Layout.ofId? id).getD .plain) (modernPicture data)
  else
    match Layout.ofId? id, id.head? with
    | some l, _ => readRecord framesFit l data
    | none, some 'T' => readText v id data
    | none, some 'W' => (Utf8.decode? data).map fun t => (.link t, none)
    | none, _ => readRecord framesFit .plain data

/-! ## Frames -/

/-- What stands before the content of a frame, and the bytes from the content on. -/
structure FrameHead where
  id : Bytes
  size : Nat
  flags : Nat
  rest : Bytes

def headSize : Version → Nat
  | .v22 => 6
  | _ => 10

/-- Reads the head of a frame, if there is one and no padding. -/
def readHead (v : Version) (bs : Bytes) : Option FrameHead :=
  if bs.head? = some 0 then none
  else
    match v, bs with
    | .v22, a :: b :: c :: s₁ :: s₂ :: s₃ :: rest =>
      some ⟨[a, b, c], decode 256 [s₁, s₂, s₃], 0, rest⟩
    | .v23, a :: b :: c :: d :: s₁ :: s₂ :: s₃ :: s₄ :: f₁ :: f₂ :: rest =>
      some ⟨[a, b, c, d], decode 256 [s₁, s₂, s₃, s₄], decode 256 [f₁, f₂], rest⟩
    | .v24, a :: b :: c :: d :: s₁ :: s₂ :: s₃ :: s₄ :: f₁ :: f₂ :: rest =>
      some ⟨[a, b, c, d], decode 128 [s₁, s₂, s₃, s₄], decode 256 [f₁, f₂], rest⟩
    | _, _ => none

theorem length_readHead {v : Version} {bs : Bytes} {h : FrameHead} (e : readHead v bs = some h) :
    h.rest.length < bs.length := by
  unfold readHead at e
  split at e
  · cases e
  · split at e <;> cases e <;> simp only [List.length_cons] <;> omega

def expand (isCompressed : Bool) (data : Bytes) : Except Fault Bytes :=
  if isCompressed then (Deflate.expand? data).elim (.error .compression) .ok else .ok data

/-- The content of a frame as its flags say. It may follow its own length and may be compressed, and
in version 2.4 it may have to be resynchronised before; encryption and groups are not supported. -/
def unpack (v : Version) (flags : Nat) (data : Bytes) : Except Fault Bytes :=
  match v with
  | .v22 => .ok data
  | .v23 =>
    if hasBit flags 0x60 then .error .frameFlags
    else
      let isCompressed := hasBit flags 0x80
      expand isCompressed (if isCompressed then data.drop 4 else data)
  | .v24 =>
    if hasBit flags 0x44 then .error .frameFlags
    else
      let data := if hasBit flags 0x01 then data.drop 4 else data
      expand (hasBit flags 0x08) (if hasBit flags 0x02 then resync data else data)

/-- Reads a frame of which the head is given. Which bytes may be frames inside is given. -/
def FrameHead.read (framesFit : Bytes → Bool) (h : FrameHead) (v : Version) :
    Except Fault Frame := do
  let some name := Utf8.decode? h.id | .error .frameId
  let id := if v = .v22 then modernId name else name
  let data ← unpack v h.flags (h.rest.take h.size)
  match readContent framesFit v id data with
  | some (content, charset) => return ⟨id, content, charset⟩
  | none => .error (.content id)

/-- How many frames may follow each other inside of a frame, and how deep they may lie: more than a
memory holds. -/
def maxNested : Nat := 0x10000000000000000

/-- Whether bytes may be frames inside of a frame: up to padding, all can be read. -/
def framesFit (v : Version) : (fuel : Nat) → Bytes → Bool
  | 0, _ => true
  | fuel + 1, bs =>
    match readHead v bs with
    | none => true
    | some h => (h.read (framesFit v fuel) v).isOk && framesFit v fuel (h.rest.drop h.size)

/-- Reads frames while some of the declared size is left. -/
def readFrames (v : Version) (left : Nat) (t : Tag) (bs : Bytes) : Except Fault Tag :=
  if left = 0 then .ok t
  else
    match e : readHead v bs with
    | none => .ok t
    | some h => do
      have := length_readHead e
      let f ← h.read (framesFit v maxNested) v
      readFrames v (left - (headSize v + h.size)) (t.add f) (h.rest.drop h.size)
termination_by bs.length
decreasing_by simp; omega

/-! ## Tags -/

/-- The header of a tag, and the bytes behind it. -/
structure Header where
  version : Version
  flags : Nat
  size : Nat
  rest : Bytes

def Version.ofMajor? : Nat → Option Version
  | 2 => some .v22
  | 3 => some .v23
  | 4 => some .v24
  | _ => none

/-- The length below which a file is not looked at. -/
def minFile : Nat := 12

def readHeader (bs : Bytes) : Except Fault Header :=
  if bs.length < minFile then .error .noTag
  else
    match bs with
    | 0x49 :: 0x44 :: 0x33 :: major :: _ :: flags :: s₁ :: s₂ :: s₃ :: s₄ :: rest =>
      match Version.ofMajor? major.toNat with
      | none => .error (.version major.toNat)
      | some version =>
        if hasBit flags.toNat 0x0F then .error .headerFlags
        else if version = .v22 && hasBit flags.toNat 0x40 then .error .compressed
        else .ok ⟨version, flags.toNat, decode 128 [s₁, s₂, s₃, s₄], rest⟩
    | _ => .error .noTag

/-- Leaves out the extended header, and says how much of the tag's size is left. -/
def Header.skipExtension (h : Header) (bs : Bytes) : Except Fault (Nat × Bytes) :=
  if h.version != .v22 && hasBit h.flags 0x40 then
    let size := decode 128 (bs.take 4)
    if bs.length < 6 || size < 6 then .error .extendedHeader
    else .ok (h.size - size, bs.drop size)
  else .ok (h.size, bs)

/-- The bytes behind the header, as the frames were before they were kept free of marks. -/
def Header.body (h : Header) : Bytes :=
  match h.version with
  | .v22 =>
    let bs := h.rest.take h.size
    if hasBit h.flags 0x80 then resync bs else bs
  | .v23 => if hasBit h.flags 0x80 then resync h.rest else h.rest
  | .v24 => h.rest

/-- Reads the tag at the head of a file. -/
def read (bs : Bytes) : Except Fault Tag := do
  let h ← readHeader bs
  let (left, frames) ← h.skipExtension h.body
  readFrames h.version left { version := h.version } frames

end TagEdit.Id3
