import TagEdit.Id3.Charset

/-!
# Records

A record is a content that is checked and then kept as it stands. Its name fixes
its layout, a list of parts, some of which tell the records of one name apart:
they are its key. `Layout.read?` gives the character set and the key of a record
that has its layout.
-/

namespace TagEdit.Id3

inductive Part where
  | bytes (n : Nat)
  /-- A Latin-1 text up to its terminator. -/
  | name
  /-- A text in the character set of the record up to its terminator. -/
  | caption
  /-- A text in the character set of the record that takes all that is left. -/
  | value
  /-- All that is left. -/
  | rest
  /-- Captions, each with four bytes behind it, that take all that is left. -/
  | lines
  /-- Names behind the byte of their number. -/
  | names
  /-- Frames that take all that is left. -/
  | frames
  deriving DecidableEq, Repr

/-- What a record consists of: whether the byte of a character set comes first, and the parts, each
with whether it belongs to the key. -/
structure Layout where
  hasCharset : Bool
  parts : List (Part × Bool)
  deriving DecidableEq, Repr

namespace Layout

/-- A record of bytes without any meaning. -/
def plain : Layout := ⟨false, [(.rest, true)]⟩

/-- The layouts of the names that have one. -/
def named : List (String × Layout) :=
  [("APIC", ⟨true, [(.name, false), (.bytes 1, true), (.caption, false), (.rest, false)]⟩),
   ("CHAP", ⟨false, [(.name, true), (.bytes 16, false), (.frames, false)]⟩),
   ("CTOC", ⟨false, [(.name, true), (.bytes 1, false), (.names, false), (.frames, false)]⟩),
   ("GEOB", ⟨true, [(.name, false), (.caption, false), (.caption, true), (.rest, false)]⟩),
   ("IPLS", ⟨true, [(.value, false)]⟩),
   ("MLLT", ⟨false, [(.bytes 10, false), (.rest, false)]⟩),
   ("POPM", ⟨false, [(.name, true), (.bytes 1, false), (.rest, false)]⟩),
   ("PRIV", ⟨false, [(.name, true), (.rest, true)]⟩),
   ("SYLT", ⟨true, [(.bytes 3, true), (.bytes 1, false), (.bytes 1, true), (.caption, false),
      (.lines, false)]⟩),
   ("TIPL", ⟨true, [(.value, false)]⟩),
   ("TMCL", ⟨true, [(.value, false)]⟩),
   ("TXXX", ⟨true, [(.caption, true), (.value, false)]⟩),
   ("UFID", ⟨false, [(.name, true), (.rest, false)]⟩),
   ("USLT", ⟨true, [(.bytes 3, true), (.caption, true), (.value, false)]⟩),
   ("WXXX", ⟨true, [(.caption, true), (.rest, false)]⟩)]

def ofId? (id : Text) : Option Layout :=
  (named.find? fun l => l.1.toList == id).map Prod.snd

end Layout

/-! ## Reading -/

/-- Bytes as a text, one character for each. -/
def ofBytes (bs : Bytes) : Text := bs.map fun b => Char.ofNat b.toNat

/-- Reads a text up to its terminator. -/
def readCaption? (cs : Charset) (bs : Bytes) : Option (Text × Bytes) := do
  let (t, rest) ← cs.split bs
  return (← cs.decode? t, rest)

/-- Reads captions, each with four bytes behind it. Each takes a byte or more, which bounds their
number. -/
def linesFit (cs : Charset) : (fuel : Nat) → Bytes → Bool
  | _, [] => true
  | 0, _ => false
  | fuel + 1, bs =>
    match readCaption? cs bs with
    | none => false
    | some (_, rest) => 4 ≤ rest.length && linesFit cs fuel (rest.drop 4)

def readNames? : Nat → Bytes → Option Bytes
  | 0, bs => some bs
  | n + 1, bs => (readCaption? .latin1 bs).bind fun r => readNames? n r.2

def Part.read? (framesFit : Bytes → Bool) (cs : Charset) (bs : Bytes) :
    Part → Option (Text × Bytes)
  | .bytes n => if bs.length < n then none else some (ofBytes (bs.take n), bs.drop n)
  | .name => readCaption? .latin1 bs
  | .caption => readCaption? cs bs
  | .value => (cs.decode? bs).map (·, [])
  | .rest => some (ofBytes bs, [])
  | .lines => if linesFit cs bs.length bs then some ([], []) else none
  | .names =>
    match bs with
    | [] => none
    | b :: bs => (readNames? b.toNat bs).map ([], ·)
  | .frames => if framesFit bs then some ([], []) else none

/-- Reads parts and gives those of the key. -/
def readKey? (framesFit : Bytes → Bool) (cs : Charset) : List (Part × Bool) → Bytes →
    Option (List Text)
  | [], _ => some []
  | (p, inKey) :: ps, bs => do
    let (t, bs) ← p.read? framesFit cs bs
    let key ← readKey? framesFit cs ps bs
    return if inKey then t :: key else key

/-- The character set, if there is one, and the key of a record. Which bytes may be frames is
given. -/
def Layout.read? (l : Layout) (framesFit : Bytes → Bool) (bs : Bytes) :
    Option (Option Charset × List Text) :=
  if l.hasCharset then
    match bs with
    | [] => none
    | b :: bs => do
      let cs ← Charset.ofByte? b
      return (some cs, ← readKey? framesFit cs l.parts bs)
  else (readKey? framesFit .latin1 l.parts bs).map (none, ·)

end TagEdit.Id3
