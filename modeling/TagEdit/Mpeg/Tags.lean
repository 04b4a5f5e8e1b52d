import TagEdit.Id3.Reader

/-!
# Passing over tags

On the way to its stream, the tags of a file are passed over frame by frame. A tag
must end where it says. Frames of some names are looked into: they must neither
be compressed nor encrypted, and their contents must be long enough and name a
character set that exists. `skipTag` gives what follows a tag.
-/

namespace TagEdit.Mpeg

open Binary

/-! ## Contents -/

/-- What a content must have. -/
inductive Demand where
  | nothing
  /-- The byte of a character set. -/
  | charset
  /-- The byte of a character set and a language. -/
  | language
  /-- The byte of a character set, a name and a byte. -/
  | picture
  /-- A name and a byte. -/
  | rating
  /-- A number of four to eight bytes. -/
  | counter
  deriving DecidableEq, Repr

/-- Texts and links. -/
def charsetIds : List String :=
  ["GRP1", "IPLS", "MVIN", "MVNM", "TALB", "TBPM", "TCAT", "TCMP", "TCOM", "TCON", "TCOP", "TDAT",
   "TDEN", "TDES", "TDLY", "TDOR", "TDRC", "TDRL", "TDTG", "TENC", "TEXT", "TFLT", "TGID", "TIME",
   "TIPL", "TIT1", "TIT2", "TIT3", "TKEY", "TKWD", "TLAN", "TLEN", "TMCL", "TMED", "TMOO", "TOAL",
   "TOFN", "TOLY", "TOPE", "TORY", "TOWN", "TPE1", "TPE2", "TPE3", "TPE4", "TPOS", "TPRO", "TPUB",
   "TRCK", "TRDA", "TRSN", "TRSO", "TSIZ", "TSO2", "TSOA", "TSOC", "TSOP", "TSOT", "TSRC", "TSSE",
   "TSST", "TXXX", "TYER", "WXXX"]

def plainIds : List String :=
  ["MCDI", "PRIV", "WCOM", "WCOP", "WFED", "WOAF", "WOAR", "WOAS", "WORS", "WPAY", "WPUB"]

/-- What the content of a frame must have, if frames of its name are looked into. -/
def demand? (id : Text) : Option Demand :=
  let name := String.ofList id
  if charsetIds.contains name then some .charset
  else if plainIds.contains name then some .nothing
  else if ["COMM", "USLT"].contains name then some .language
  else if name == "APIC" then some .picture
  else if name == "POPM" then some .rating
  else if name == "PCNT" then some .counter
  else none

def afterZero (bs : Bytes) : Bytes := ((Id3.Charset.splitZero bs).map Prod.snd).getD []

def Demand.holds : Demand → Bytes → Bool
  | .nothing, _ => true
  | .charset, bs => (bs.head?.bind Id3.Charset.ofByte?).isSome
  | .language, bs => (bs.head?.bind Id3.Charset.ofByte?).isSome && 4 ≤ bs.length
  | .picture, bs => (bs.head?.bind Id3.Charset.ofByte?).isSome && !(afterZero bs.tail).isEmpty
  | .rating, bs => !(afterZero bs).isEmpty
  | .counter, bs => 4 ≤ bs.length && bs.length ≤ 8

/-! ## Frames -/

def unknownFlags : Id3.Version → Nat
  | .v22 => 0
  | .v23 => 0x1F1F
  | .v24 => 0x8FB0

/-- The content of a frame that is neither compressed nor encrypted, without the byte of its group
and its length. -/
def content? (v : Id3.Version) (flags : Nat) (data : Bytes) : Option Bytes :=
  match v with
  | .v22 => some data
  | .v23 =>
    if hasBit flags 0xC0 then none else some (if hasBit flags 0x20 then data.drop 1 else data)
  | .v24 =>
    if hasBit flags 0x0C then none
    else
      let data := if hasBit flags 0x40 then data.drop 1 else data
      let data := if hasBit flags 0x01 && 4 ≤ data.length then data.drop 4 else data
      some (if hasBit flags 0x02 then Id3.resync data else data)

/-- Whether a frame is as it must be. An empty content is passed over. -/
def frameFits (v : Id3.Version) (h : Id3.FrameHead) : Bool :=
  let name := Id3.ofBytes h.id
  if hasBit h.flags (unknownFlags v) || h.rest.length < h.size then false
  else
    match demand? (if v = .v22 then Id3.modernId name else name) with
    | none => true
    | some d => (content? v h.flags (h.rest.take h.size)).any fun bs => bs.isEmpty || d.holds bs

/-- Whether a name consists of capital letters and digits. -/
def isFrameId (id : Bytes) : Bool :=
  id.all fun b => 65 ≤ b.toNat && b.toNat ≤ 90 || 48 ≤ b.toNat && b.toNat ≤ 57

/-- Whether frames follow each other up to the end of a tag, or up to something that is no
frame. -/
def framesFit (v : Id3.Version) (bs : Bytes) : Bool :=
  let idSize := if v = .v22 then 3 else 4
  if bs.length < idSize then false
  else if !isFrameId (bs.take idSize) then true
  else
    match e : Id3.readHead v bs with
    | none => false
    | some h =>
      if !frameFits v h then false
      else
        have := Id3.length_readHead e
        let rest := h.rest.drop h.size
        if rest.length < Id3.headSize v then true else framesFit v rest
termination_by bs.length
decreasing_by simp; omega

/-! ## Tags -/

def skipExtension (v : Id3.Version) (bs : Bytes) : Option Bytes :=
  if v = .v24 then
    if bs[4]? = some 1 then some (bs.drop (decode 128 (bs.take 4))) else none
  else
    let size := decode 256 (bs.take 4)
    if size = 6 ∨ size = 10 then some (bs.drop (4 + size)) else none

/-- Whether a tag's body, of which the header's flags are given, is well-formed. -/
def bodyFits (v : Id3.Version) (flags : Nat) (body : Bytes) : Bool :=
  if v = .v22 && hasBit flags 0x40 then false
  else
    let body := if v != .v24 && hasBit flags 0x80 then Id3.resync body else body
    if hasBit flags 0x40 then (skipExtension v body).any (framesFit v) else framesFit v body

/-- What follows the tag at the head of a byte sequence, if the tag is well-formed. -/
def skipTag : Bytes → Option Bytes
  | _ :: _ :: _ :: major :: revision :: flags :: s₁ :: s₂ :: s₃ :: s₄ :: rest =>
    let size := decode 128 [s₁, s₂, s₃, s₄]
    match Id3.Version.ofMajor? major.toNat with
    | none => none
    | some v =>
      if revision != 0xFF && size ≤ rest.length && bodyFits v flags.toNat (rest.take size) then
        some (rest.drop size)
      else none
  | _ => none

theorem length_skipTag {bs rest : Bytes} (h : skipTag bs = some rest) :
    rest.length < bs.length := by
  unfold skipTag at h
  split at h
  · split at h
    · cases h
    · dsimp only at h
      split at h
      · cases h
        simp only [List.length_drop, List.length_cons]
        omega
      · cases h
  · cases h

end TagEdit.Mpeg
