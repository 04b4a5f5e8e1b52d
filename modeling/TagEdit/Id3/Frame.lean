import TagEdit.Id3.Charset

/-!
# Frames of a tag

A tag is a list of frames, each with a name of four characters and a content.
Two frames that answer to the same name and description occupy the same slot,
whatever character sets they are written in; a tag keeps one frame per slot.
-/

namespace TagEdit.Id3

inductive Version where
  | v22
  | v23
  | v24
  deriving DecidableEq, Repr

/-- The number after the point of a version. -/
def Version.minor : Version → Nat
  | .v22 => 2
  | .v23 => 3
  | .v24 => 4

inductive Content where
  | text (value : Text)
  | link (url : Text)
  | comment (language description text : Text)
  /-- What is kept as it stands, with what tells it apart from others of its name. -/
  | record (key : List Text) (data : Bytes)
  deriving DecidableEq, Repr

structure Frame where
  id : Text
  content : Content
  /-- The character set that the frame was read in, and is kept in. -/
  charset : Option Charset := none
  deriving DecidableEq, Repr

/-- Whether two contents occupy the same slot of their frames' name. -/
def Content.sameSlot : Content → Content → Bool
  | .text _, .text _ => true
  | .link _, .link _ => true
  | .comment l d _, .comment l' d' _ => l == l' && d == d'
  | .record k _, .record k' _ => k == k'
  | _, _ => false

/-- Whether two frames occupy the same slot. -/
def Frame.sameSlot (f g : Frame) : Bool := f.id == g.id && f.content.sameSlot g.content

/-- The text that a frame shows as the value of a field. -/
def Frame.text? (f : Frame) : Option Text :=
  match f.content with
  | .text t => some t
  | .link t => some t
  | _ => none

/-! ## Names -/

def commentId : Text := "COMM".toList

/-- The only text of which the name does not begin with a T. -/
def groupingId : Text := "GRP1".toList

def pictureId : Text := "APIC".toList

/-- Whether a text of a given name lists several values, which versions below 2.4 divide by
slashes. -/
def listsValues (id : Text) : Bool :=
  ["TCOM", "TEXT", "TOLY", "TOPE", "TPE1"].contains (String.ofList id)

/-- The names of three characters in version 2.2, each before its successor. -/
def renamed : List (String × String) :=
  [("BUF", "RBUF"), ("CNT", "PCNT"), ("COM", "COMM"), ("CRA", "AENC"), ("ETC", "ETCO"),
   ("EQU", "EQUA"), ("GEO", "GEOB"), ("IPL", "IPLS"), ("LNK", "LINK"), ("MCI", "MCDI"),
   ("MLL", "MLLT"), ("PIC", "APIC"), ("POP", "POPM"), ("REV", "RVRB"), ("RVA", "RVAD"),
   ("SLT", "SYLT"), ("STC", "SYTC"), ("TAL", "TALB"), ("TBP", "TBPM"), ("TCM", "TCOM"),
   ("TCO", "TCON"), ("TCR", "TCOP"), ("TDA", "TDAT"), ("TDY", "TDLY"), ("TEN", "TENC"),
   ("TFT", "TFLT"), ("TIM", "TIME"), ("TKE", "TKEY"), ("TLA", "TLAN"), ("TLE", "TLEN"),
   ("TMT", "TMED"), ("TOA", "TOPE"), ("TOF", "TOFN"), ("TOL", "TOLY"), ("TOR", "TORY"),
   ("TOT", "TOAL"), ("TP1", "TPE1"), ("TP2", "TPE2"), ("TP3", "TPE3"), ("TP4", "TPE4"),
   ("TPA", "TPOS"), ("TPB", "TPUB"), ("TRC", "TSRC"), ("TRD", "TRDA"), ("TRK", "TRCK"),
   ("TSI", "TSIZ"), ("TSS", "TSSE"), ("TT1", "TIT1"), ("TT2", "TIT2"), ("TT3", "TIT3"),
   ("TXT", "TEXT"), ("TXX", "TXXX"), ("TYE", "TYER"), ("UFI", "UFID"), ("ULT", "USLT"),
   ("WAF", "WOAF"), ("WAR", "WOAR"), ("WAS", "WOAS"), ("WCM", "WCOM"), ("WCP", "WCOP"),
   ("WPB", "WPUB"), ("WXX", "WXXX")]

/-- A name of version 2.2 as later versions write it. -/
def modernId (id : Text) : Text :=
  match renamed.find? fun r => r.1.toList == id with
  | some r => r.2.toList
  | none => id

end TagEdit.Id3
