import TagEdit.Regex.Bracket

/-!
# Reading patterns

`Pattern.parse` reads the text of a pattern. The state holds the groups that
are open, innermost first, the branches that are finished and the parts of the
current one. The first fault from the left is reported; a pattern that is
nested too deep is refused last.
-/

namespace TagEdit.Regex

/-- A group whose closing parenthesis has not been read, with what stood before it. -/
structure OpenGroup where
  kind : GroupKind
  /-- Whether blanks were skipped outside of the group. -/
  blanks : Bool
  branches : List Pattern
  parts : List Pattern

/-- What has been read of a pattern. Lists are given last first. -/
structure Reading where
  groups : List OpenGroup := []
  branches : List Pattern := []
  parts : List Pattern := []
  /-- Whether blanks and comments are skipped. -/
  blanks : Bool
  captures : Nat := 0
  names : List Text := []

namespace Reading

def push (r : Reading) (p : Pattern) : Reading := { r with parts := p :: r.parts }

/-- The branches and parts read since the last parenthesis, as one pattern. -/
def close (r : Reading) : Pattern :=
  Pattern.ofBranches ((Pattern.ofParts r.parts.reverse :: r.branches).reverse)

def enter (r : Reading) (kind : GroupKind) (blanks : Bool) : Reading :=
  { r with
    groups := ⟨kind, r.blanks, r.branches, r.parts⟩ :: r.groups
    branches := []
    parts := []
    blanks }

def enterCapture (r : Reading) : Reading :=
  { r with captures := r.captures + 1 }.enter (.capture (r.captures + 1)) r.blanks

def openGroup (r : Reading) (cs : Text) : Except Error (Reading × Text) :=
  match skipBlanks r.blanks cs with
  | '?' :: '=' :: _ | '?' :: '!' :: _ | '?' :: '<' :: '=' :: _ | '?' :: '<' :: '!' :: _ =>
    .error .lookAround
  | '?' :: 'P' :: '<' :: cs | '?' :: '<' :: cs => do
    let (name, rest) ← readGroupName cs
    if r.names.contains name then .error .groupNameDuplicate
    else return ({ r with names := name :: r.names }.enterCapture, rest)
  | '?' :: [] => .error .groupUnclosed
  | '?' :: cs => do
    let (fs, rest) ← readFlags true false [] cs
    let blanks := (flagState? .ignoreBlanks fs).getD r.blanks
    match rest with
    | ')' :: rest =>
      if fs.isEmpty then .error .repetitionMissing
      else return ({ r.push (.flags fs) with blanks }, rest)
    | rest => return (r.enter (.plain fs) blanks, rest.drop 1)
  | cs => .ok (r.enterCapture, cs)

def closeGroup (r : Reading) : Except Error Reading :=
  match r.groups with
  | [] => .error .groupUnopened
  | g :: groups =>
    .ok { r with
      groups
      branches := g.branches
      parts := .group g.kind r.close :: g.parts
      blanks := g.blanks }

/-- Takes off the last part, which a repetition applies to. -/
def popOperand (r : Reading) : Except Error (Pattern × Reading) :=
  match r.parts with
  | [] | .empty :: _ | .flags _ :: _ => .error .repetitionMissing
  | p :: parts => .ok (p, { r with parts })

/-- A question mark after a repetition makes it lazy. -/
def readGreed : Text → Bool × Text
  | '?' :: cs => (false, cs)
  | cs => (true, cs)

def repeatLast (r : Reading) (min : Nat) (max : Option Nat) (cs : Text) :
    Except Error (Reading × Text) := do
  let (p, r) ← r.popOperand
  let (greedy, rest) := readGreed cs
  return (r.push (.repetition min max greedy p), rest)

/-- A count that has to be there. -/
def required : Except Error (Option Nat) → Except Error Nat
  | .ok (some n) => .ok n
  | .ok none => .error .repetitionCountEmpty
  | .error e => .error e

/-- Reads the counts of a repetition: one bound, or a lower and perhaps an upper one. -/
def readCounts (x : Bool) (cs : Text) : Except Error (Nat × Option Nat × Text) := do
  if cs.isEmpty then .error .repetitionCountUnclosed
  let (least, rest) := readDecimal x cs
  match rest with
  | [] => .error .repetitionCountUnclosed
  | ',' :: rest =>
    match skipBlanks x rest with
    | [] => .error .repetitionCountUnclosed
    | '}' :: rest => return (← required least, none, '}' :: rest)
    | rest =>
      let least ← required least
      let (most, rest) := readDecimal x rest
      return (least, some (← required most), rest)
  | rest =>
    let n ← required least
    return (n, some n, rest)

def repeatCounted (r : Reading) (cs : Text) : Except Error (Reading × Text) := do
  let (p, r) ← r.popOperand
  match ← readCounts r.blanks (skipBlanks r.blanks cs) with
  | (least, most, '}' :: rest) =>
    let (greedy, rest) := readGreed (skipBlanks r.blanks rest)
    if most.any (· < least) then .error .repetitionCountInvalid
    else return (r.push (.repetition least most greedy p), rest)
  | _ => .error .repetitionCountUnclosed

def ofPrimitive : Primitive → Pattern
  | .literal l => .literal l
  | .dot => .dot
  | .anchor a => .anchor a
  | .named cls => .named cls

def step (r : Reading) (c : Char) (cs : Text) : Except Error (Reading × Text) :=
  match c with
  | '(' => r.openGroup cs
  | ')' => r.closeGroup.map fun r => (r, cs)
  | '|' =>
    .ok ({ r with branches := Pattern.ofParts r.parts.reverse :: r.branches, parts := [] }, cs)
  | '[' =>
    (Bracket.read r.blanks cs).map fun (negated, item, rest) =>
      (r.push (.bracketed negated item), rest)
  | '?' => r.repeatLast 0 (some 1) cs
  | '*' => r.repeatLast 0 none cs
  | '+' => r.repeatLast 1 none cs
  | '{' => r.repeatCounted cs
  | '\\' => (readEscape r.blanks cs).map fun (p, rest) => (r.push (ofPrimitive p), rest)
  | '.' => .ok (r.push .dot, cs)
  | '^' => .ok (r.push (.anchor .startLine), cs)
  | '$' => .ok (r.push (.anchor .endLine), cs)
  | c => .ok (r.push (.literal ⟨c, false⟩), cs)

/-- Reads at most `fuel` parts, to the end of the pattern. -/
def run : Nat → Reading → Text → Except Error Pattern
  | 0, _, _ => .error .groupUnclosed
  | fuel + 1, r, cs =>
    match skipBlanks r.blanks cs with
    | [] => if r.groups.isEmpty then .ok r.close else .error .groupUnclosed
    | c :: cs =>
      match r.step c cs with
      | .error e => .error e
      | .ok (r, rest) => run fuel r rest

end Reading

/-- How deep patterns may be nested. -/
def nestLimit : Nat := 250

/-- Reads a pattern. Every part takes up a character, so that there is at most one part more than
characters. -/
def Pattern.parse (blanks : Bool) (cs : Text) : Except Error Pattern := do
  let p ← Reading.run (cs.length + 1) { blanks } cs
  if nestLimit < p.depth then .error (.nestLimitExceeded nestLimit) else return p

end TagEdit.Regex
