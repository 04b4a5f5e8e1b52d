import TagEdit.Regex.Lexis

/-!
# Bracketed classes

Reads a class in brackets, after the opening one, with its ranges, nested
classes and operations. Parts side by side are a union, which binds tighter
than an operation; operations associate to the left.
-/

namespace TagEdit.Regex.Bracket

open Unicode

/-- A class whose closing bracket has not been read. -/
structure Frame where
  negated : Bool
  /-- The operation under way with what stands to its left. -/
  pending : Option (SetOp × ClassItem) := none
  /-- The items of the current union, last first. -/
  items : List ClassItem := []

def Frame.push (f : Frame) (i : ClassItem) : Frame := { f with items := i :: f.items }

/-- All that the frame holds, as one item. -/
def Frame.close (f : Frame) : ClassItem :=
  let item := ClassItem.ofItems f.items.reverse
  match f.pending with
  | none => item
  | some (k, lhs) => .op k lhs item

def Frame.operate (f : Frame) (k : SetOp) : Frame :=
  { f with pending := some (k, f.close), items := [] }

/-- The classes that have names between colons. -/
def asciiClass? (name : Text) : Option CharSet :=
  match String.ofList name with
  | "alnum" => some ⟨[(48, 57), (65, 90), (97, 122)]⟩
  | "alpha" => some ⟨[(65, 90), (97, 122)]⟩
  | "ascii" => some ⟨[(0, 127)]⟩
  | "blank" => some ⟨[(9, 9), (32, 32)]⟩
  | "cntrl" => some ⟨[(0, 31), (127, 127)]⟩
  | "digit" => some ⟨[(48, 57)]⟩
  | "graph" => some ⟨[(33, 126)]⟩
  | "lower" => some ⟨[(97, 122)]⟩
  | "print" => some ⟨[(32, 126)]⟩
  | "punct" => some ⟨[(33, 47), (58, 64), (91, 96), (123, 126)]⟩
  | "space" => some ⟨[(9, 13), (32, 32)]⟩
  | "upper" => some ⟨[(65, 90)]⟩
  | "word" => some ⟨[(48, 57), (65, 90), (95, 95), (97, 122)]⟩
  | "xdigit" => some ⟨[(48, 57), (65, 70), (97, 102)]⟩
  | _ => none

/-- Reads a named class after its bracket and colon; nothing is read if it is none. -/
def readAscii? (cs : Text) : Option (ClassItem × Text) :=
  let (negated, cs) : Bool × Text := match cs with
    | '^' :: cs => (true, cs)
    | cs => (false, cs)
  match cs.dropWhile (· != ':') with
  | ':' :: ']' :: rest =>
    (asciiClass? (cs.takeWhile (· != ':'))).map fun s => (.ascii s negated, rest)
  | _ => none

/-- Counts off the hyphens that stand for themselves at the front of a class. -/
def readHyphens (x : Bool) (f : Frame) (cs : Text) : Frame × Text :=
  let (hyphens, rest) := spanPast x (· == '-') cs
  (hyphens.foldl (fun f c => f.push (.literal ⟨c, false⟩)) f, rest)

/-- Reads the front of a class: a negation, hyphens, and a closing bracket that stands for
itself. -/
def readOpening (x : Bool) (cs : Text) : Except Error (Frame × Text) :=
  let cs := skipBlanks x cs
  let (negated, cs) : Bool × Text := match cs with
    | '^' :: cs => (true, skipBlanks x cs)
    | cs => (false, cs)
  match readHyphens x { negated } cs with
  | (_, []) => .error .classUnclosed
  | (f, c :: cs) =>
    if c = ']' ∧ f.items.isEmpty then
      match skipBlanks x cs with
      | [] => .error .classUnclosed
      | cs => .ok (f.push (.literal ⟨']', false⟩), cs)
    else .ok (f, c :: cs)

def readPrimitive (x : Bool) (c : Char) (cs : Text) : Except Error (Primitive × Text) :=
  if c = '\\' then readEscape x cs else .ok (.literal ⟨c, false⟩, cs)

/-- A character or escape as an item of its own. -/
def itemOf : Primitive → Except Error ClassItem
  | .literal l => .ok (.literal l)
  | .named cls => .ok (.named cls)
  | _ => .error .classEscapeInvalid

/-- A character or escape as the bound of a range. -/
def boundOf : Primitive → Except Error Literal
  | .literal l => .ok l
  | _ => .error .classRangeLiteral

/-- Reads a range, or a single character or escape. -/
def readRange (x : Bool) (c : Char) (cs : Text) : Except Error (ClassItem × Text) := do
  let (lo, cs) ← readPrimitive x c cs
  match skipBlanks x cs with
  | [] => .error .classUnclosed
  | d :: cs =>
    if d != '-' || peekPast x cs == some ']' || peekPast x cs == some '-' then
      return (← itemOf lo, d :: cs)
    else
      match skipBlanks x cs with
      | [] => .error .classUnclosed
      | c :: cs =>
        let (hi, rest) ← readPrimitive x c cs
        let lo ← boundOf lo
        let hi ← boundOf hi
        if lo.char ≤ hi.char then return (.range lo hi, rest) else .error .classRangeInvalid

/-- What reading one part of a class leads to. -/
inductive Step where
  | more (outer : List Frame) (f : Frame) (rest : Text)
  | done (negated : Bool) (item : ClassItem) (rest : Text)

/-- Reads one part of a class inside the classes `outer`. -/
def step (x : Bool) (outer : List Frame) (f : Frame) (c : Char) (cs : Text) : Except Error Step :=
  if c = '[' then
    match cs with
    | ':' :: inner =>
      match readAscii? inner with
      | some (item, rest) => .ok (.more outer (f.push item) rest)
      | none => open_
    | _ => open_
  else if c = ']' then
    match outer with
    | [] => .ok (.done f.negated f.close cs)
    | g :: outer => .ok (.more outer (g.push (.bracketed f.negated f.close)) cs)
  else if c = '&' ∧ cs.head? = some '&' then .ok (.more outer (f.operate .inter) (cs.drop 1))
  else if c = '-' ∧ cs.head? = some '-' then .ok (.more outer (f.operate .diff) (cs.drop 1))
  else if c = '~' ∧ cs.head? = some '~' then .ok (.more outer (f.operate .symmDiff) (cs.drop 1))
  else (readRange x c cs).map fun r => .more outer (f.push r.1) r.2
where
  open_ : Except Error Step := (readOpening x cs).map fun r => .more (f :: outer) r.1 r.2

/-- Reads the parts of a class up to its closing bracket, at most `fuel` of them. -/
def readParts (x : Bool) :
    Nat → List Frame → Frame → Text → Except Error (Bool × ClassItem × Text)
  | 0, _, _, _ => .error .classUnclosed
  | fuel + 1, outer, f, cs =>
    match skipBlanks x cs with
    | [] => .error .classUnclosed
    | c :: cs =>
      match step x outer f c cs with
      | .error e => .error e
      | .ok (.more outer f rest) => readParts x fuel outer f rest
      | .ok (.done negated item rest) => .ok (negated, item, rest)

/-- Reads a class after its opening bracket. Every part takes up a character. -/
def read (x : Bool) (cs : Text) : Except Error (Bool × ClassItem × Text) := do
  let (f, rest) ← readOpening x cs
  readParts x (rest.length + 1) [] f rest

end TagEdit.Regex.Bracket
