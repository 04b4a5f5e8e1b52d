import TagEdit.Binary

/-!
# Compressed bytes

A compressed stream has two bytes of header, blocks, and a checksum of the bytes
that it stands for. A block holds bytes as they are, or symbols under prefix
codes. A symbol is a byte, the end of the block, or the length of a run to be
repeated, and then the distance back to that run follows. `expand?` gives the
bytes of a stream that is complete and sound.
-/

namespace TagEdit.Deflate

/-! ## Bits -/

/-- Bits in reading order. -/
abbrev Bits := List Bool

/-- The bits of a byte sequence, the lowest bit of a byte first. -/
def bits (bs : Bytes) : Bits := bs.flatMap fun b => (List.range 8).map b.toNat.testBit

/-- Takes a number of a given width off some bits, its lowest bit first. -/
def takeBits? : Nat → Bits → Option (Nat × Bits)
  | 0, bs => some (0, bs)
  | _ + 1, [] => none
  | n + 1, b :: bs => (takeBits? n bs).map fun r => (b.toNat + 2 * r.1, r.2)

def takeMany? (width : Nat) : Nat → Bits → Option (List Nat × Bits)
  | 0, bs => some ([], bs)
  | n + 1, bs => do
    let (x, bs) ← takeBits? width bs
    let (xs, bs) ← takeMany? width n bs
    return (x :: xs, bs)

/-- The bits from the next byte on. -/
def align (bs : Bits) : Bits := bs.drop (bs.length % 8)

/-! ## Prefix codes -/

/-- A prefix code as a tree: a bit leads from a fork to one of its sides. -/
inductive Code where
  | vacant
  | symbol (n : Nat)
  | fork (zero one : Code)

namespace Code

def maxLength : Nat := 15

def read? : Code → Bits → Option (Nat × Bits)
  | .symbol n, bs => some (n, bs)
  | .fork zero one, b :: bs => if b then one.read? bs else zero.read? bs
  | _, _ => none

/-- The tree below a node that has some levels below it. It takes from a list of symbols with the
lengths of their words, the short words first; what it leaves is for the nodes to its right. -/
def grow : (levels : Nat) → List (Nat × Nat) → Code × List (Nat × Nat)
  | _, [] => (.vacant, [])
  | 0, w :: ws => (.symbol w.2, ws)
  | levels + 1, w :: ws =>
    if w.1 + (levels + 1) = maxLength then (.symbol w.2, ws)
    else
      let (zero, rest) := grow levels (w :: ws)
      let (one, rest) := grow levels rest
      (.fork zero one, rest)

/-- The code in which each symbol has a word of its length, or none for length zero. The words
have to fill the tree, except that a single one may leave room. -/
def ofLengths? (lengths : List Nat) : Option Code :=
  let used := lengths.zipIdx.filter fun w => w.1 != 0
  let words := (List.range (maxLength + 1)).flatMap fun l => used.filter fun w => w.1 == l
  let room := words.foldl (fun r w => r + Nat.pow 2 (maxLength - w.1)) 0
  if room = Nat.pow 2 maxLength ∨ words.length ≤ 1 then some (grow maxLength words).1 else none

end Code

/-- The codes of a block: of bytes and lengths, and of distances. -/
structure Codes where
  symbols : Code
  distances : Code

/-- The codes of a block that does not bring its own. -/
def fixedCodes? : Option Codes := do
  let lengths := List.replicate 144 8 ++ List.replicate 112 9 ++ List.replicate 24 7 ++
    List.replicate 8 8
  return ⟨← Code.ofLengths? lengths, ← Code.ofLengths? (List.replicate 32 5)⟩

/-! ## Codes in a stream -/

/-- In which order the lengths of the words for lengths are written. -/
def lengthOrder : List Nat := [16, 17, 18, 0, 8, 7, 9, 6, 10, 5, 11, 4, 12, 3, 13, 2, 14, 1, 15]

/-- Takes what a symbol adds to the lengths, latest first: a length, or a run of one. -/
def takeRun? (symbol : Nat) (ls : List Nat) (bs : Bits) : Option (List Nat × Bits) :=
  if symbol < 16 then some ([symbol], bs)
  else if symbol = 16 then do
    let (n, bs) ← takeBits? 2 bs
    return (List.replicate (3 + n) (← ls.head?), bs)
  else if symbol = 17 then (takeBits? 3 bs).map fun r => (List.replicate (3 + r.1) 0, r.2)
  else (takeBits? 7 bs).map fun r => (List.replicate (11 + r.1) 0, r.2)

/-- Reads lengths up to a count, those already read being given, latest first. -/
def readLengths? (c : Code) (count : Nat) : (fuel : Nat) → List Nat → Bits →
    Option (List Nat × Bits)
  | 0, _, _ => none
  | fuel + 1, ls, bs =>
    if ls.length = count then some (ls.reverse, bs)
    else if count < ls.length then none
    else do
      let (symbol, bs) ← c.read? bs
      let (run, bs) ← takeRun? symbol ls bs
      readLengths? c count fuel (run ++ ls) bs

/-- The largest numbers of symbols and of distances. -/
def maxSymbols : Nat := 286

def maxDistances : Nat := 30

/-- Reads the codes that a block brings. Each symbol adds one length or more, which bounds how
often one is read. -/
def readCodes? (bs : Bits) : Option (Codes × Bits) := do
  let (n, bs) ← takeBits? 5 bs
  let (m, bs) ← takeBits? 5 bs
  let symbols := 257 + n
  let distances := 1 + m
  if maxSymbols < symbols || maxDistances < distances then none
  let (k, bs) ← takeBits? 4 bs
  let (written, bs) ← takeMany? 3 (4 + k) bs
  let table := lengthOrder.zip written
  let code ← Code.ofLengths? ((List.range 19).map fun s => (table.lookup s).getD 0)
  let count := symbols + distances
  let (lengths, bs) ← readLengths? code count (count + 1) [] bs
  let ofSymbols ← Code.ofLengths? (lengths.take symbols)
  let ofDistances ← Code.ofLengths? (lengths.drop symbols)
  return (⟨ofSymbols, ofDistances⟩, bs)

/-! ## Blocks -/

/-- The least length that each symbol for a length stands for, and how many bits add to it. -/
def lengthTable : List (Nat × Nat) :=
  [(3, 0), (4, 0), (5, 0), (6, 0), (7, 0), (8, 0), (9, 0), (10, 0), (11, 1), (13, 1), (15, 1),
   (17, 1), (19, 2), (23, 2), (27, 2), (31, 2), (35, 3), (43, 3), (51, 3), (59, 3), (67, 4),
   (83, 4), (99, 4), (115, 4), (131, 5), (163, 5), (195, 5), (227, 5), (258, 0)]

/-- The least distance of each symbol, and how many bits add to it. -/
def distanceTable : List (Nat × Nat) :=
  [(1, 0), (2, 0), (3, 0), (4, 0), (5, 1), (7, 1), (9, 2), (13, 2), (17, 3), (25, 3), (33, 4),
   (49, 4), (65, 5), (97, 5), (129, 6), (193, 6), (257, 7), (385, 7), (513, 8), (769, 8),
   (1025, 9), (1537, 9), (2049, 10), (3073, 10), (4097, 11), (6145, 11), (8193, 12),
   (12289, 12), (16385, 13), (24577, 13)]

/-- Takes the number that an entry of a table stands for. -/
def takeEntry? (table : List (Nat × Nat)) (i : Nat) (bs : Bits) : Option (Nat × Bits) := do
  let (least, width) ← table[i]?
  let (n, bs) ← takeBits? width bs
  return (least + n, bs)

/-- Repeats bytes from a distance back. Before the beginning there are zeros. -/
def repeatBack (distance : Nat) : Nat → Array UInt8 → Array UInt8
  | 0, out => out
  | n + 1, out =>
    let b := if out.size < distance then 0 else out.getD (out.size - distance) 0
    repeatBack distance n (out.push b)

def readSymbols? (cs : Codes) : (fuel : Nat) → Array UInt8 → Bits →
    Option (Array UInt8 × Bits)
  | 0, _, _ => none
  | fuel + 1, out, bs => do
    let (symbol, bs) ← cs.symbols.read? bs
    if symbol < 256 then readSymbols? cs fuel (out.push (UInt8.ofNat symbol)) bs
    else if symbol = 256 then return (out, bs)
    else
      let (length, bs) ← takeEntry? lengthTable (symbol - 257) bs
      let (d, bs) ← cs.distances.read? bs
      let (distance, bs) ← takeEntry? distanceTable d bs
      readSymbols? cs fuel (repeatBack distance length out) bs

/-- Reads a block of bytes as they are: their number, its complement, and the bytes. -/
def readStored? (out : Array UInt8) (bs : Bits) : Option (Array UInt8 × Bits) := do
  let (n, bs) ← takeBits? 16 (align bs)
  let (complement, bs) ← takeBits? 16 bs
  if n + complement != 0xFFFF then none
  let (stored, bs) ← takeMany? 8 n bs
  return (out ++ stored.map UInt8.ofNat, bs)

/-- Reads blocks up to the last one. A block takes three bits or more and a symbol takes one, so
that there are no more of them than bits. -/
def readBlocks? : (fuel : Nat) → Array UInt8 → Bits → Option (Array UInt8 × Bits)
  | 0, _, _ => none
  | fuel + 1, out, bs => do
    let (last, bs) ← takeBits? 1 bs
    let (kind, bs) ← takeBits? 2 bs
    let (out, bs) ←
      match kind with
      | 0 => readStored? out bs
      | 1 => fixedCodes?.bind fun cs => readSymbols? cs (bs.length + 1) out bs
      | 2 => (readCodes? bs).bind fun r => readSymbols? r.1 (r.2.length + 1) out r.2
      | _ => none
    if last = 1 then return (out, bs) else readBlocks? fuel out bs

/-! ## Streams -/

/-- The checksum: the sum of all bytes and one, and the sum of all these sums. -/
def checksum (bs : Array UInt8) : Nat :=
  let (a, b) := bs.foldl (fun (a, b) x =>
    let a := (a + x.toNat) % 65521
    (a, (b + a) % 65521)) (1, 0)
  b * 65536 + a

/-- Whether two bytes open a stream: they name the method and a window of at most 32768 bytes,
ask for no dictionary, and are a multiple of 31 together. -/
def opens (method flags : UInt8) : Bool :=
  method.toNat % 16 == 8 && method.toNat / 16 ≤ 7 && !Binary.hasBit flags.toNat 0x20 &&
    (method.toNat * 256 + flags.toNat) % 31 == 0

/-- The bytes that a stream stands for. What follows the stream does not count. -/
def expand? : Bytes → Option Bytes
  | method :: flags :: rest => do
    if !opens method flags then none
    let bs := bits rest
    let (out, bs) ← readBlocks? (bs.length + 1) #[] bs
    let (sum, _) ← takeMany? 8 4 (align bs)
    if Binary.decode 256 (sum.map UInt8.ofNat) = checksum out then return out.toList else none
  | _ => none

end TagEdit.Deflate
