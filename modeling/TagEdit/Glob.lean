import TagEdit.Disk

/-!
# Patterns of file names

A pattern is matched against a directory tree component by component. A
component without wildcards is looked up; one with wildcards selects entries by
name, ASCII letters in either case; `**` stands for any number of directories.
Entries whose names begin with a dot are never selected by a wildcard. `expand`
returns the regular files that match, in order, and `resolveInputs` falls back
on the default pattern when no paths are given.
-/

namespace TagEdit.Glob

open TagEdit.Path TagEdit.Path.Symbols

/-! ## Syntax -/

/-- A member of a class of characters. -/
inductive Member where
  | single (c : Char)
  | range (low high : Char)
  deriving DecidableEq, Repr

/-- A part of a pattern's component. -/
inductive Token where
  | char (c : Char)
  | anyChar
  | anyChars
  | within (ms : List Member)
  | except (ms : List Member)
  /-- Any number of directories. -/
  | anyPath
  deriving DecidableEq, Repr

inductive Cause where
  | wildcards
  | recursion
  | range
  deriving DecidableEq, Repr

/-- Why a text is no pattern. Positions are counted in characters from zero. -/
structure SyntaxError where
  position : Nat
  cause : Cause
  deriving DecidableEq, Repr

def Cause.message : Cause → String
  | .wildcards => "wildcards are either regular `*` or recursive `**`"
  | .recursion => "recursive wildcards must form a single path component"
  | .range => "invalid range pattern"

def SyntaxError.message (e : SyntaxError) : Text :=
  "Pattern syntax error near position ".toList ++ Text.decimal e.position ++ ": ".toList ++
    e.cause.message.toList

def members : Text → List Member
  | a :: '-' :: b :: rest => .range a b :: members rest
  | c :: rest => .single c :: members rest
  | [] => []

/-- Splits the inside of a class, of which the first character is given, from what follows. -/
def splitClass (first : Char) (cs : Text) : Option (List Member × Text) :=
  match cs.dropWhile (· != ']') with
  | [] => none
  | _ :: rest => some (members (first :: cs.takeWhile (· != ']')), rest)

theorem length_splitClass {first : Char} {cs : Text} {r : List Member × Text}
    (h : splitClass first cs = some r) : r.2.length < cs.length := by
  unfold splitClass at h
  have := (List.dropWhile_sublist (· != ']') (l := cs)).length_le
  split at h
  · cases h
  · simp_all
    obtain rfl := h
    simp
    omega

/-- Reads the tokens of a pattern from a position on, with the character before it. -/
def readTokens (before : Option Char) (position : Nat) : Text → Except SyntaxError (List Token)
  | [] => .ok []
  | '?' :: cs => (readTokens (some '?') (position + 1) cs).map (.anyChar :: ·)
  | '*' :: '*' :: '*' :: _ => .error ⟨position + 2, .wildcards⟩
  | '*' :: '*' :: cs =>
    if before.all (· == '/') then
      match cs with
      | [] => .ok [.anyPath]
      | '/' :: cs => (readTokens (some '/') (position + 3) cs).map (.anyPath :: ·)
      | _ => .error ⟨position + 2, .recursion⟩
    else .error ⟨position - 1, .recursion⟩
  | '*' :: cs => (readTokens (some '*') (position + 1) cs).map (.anyChars :: ·)
  | '[' :: '!' :: c :: cs =>
    match h : splitClass c cs with
    | none => .error ⟨position, .range⟩
    | some r =>
      have := length_splitClass h
      (readTokens (some ']') (position + 3 + (cs.length - r.2.length)) r.2).map (.except r.1 :: ·)
  | '[' :: c :: cs =>
    if c = '!' then .error ⟨position, .range⟩
    else
      match h : splitClass c cs with
      | none => .error ⟨position, .range⟩
      | some r =>
        have := length_splitClass h
        (readTokens (some ']') (position + 2 + (cs.length - r.2.length)) r.2).map
          (.within r.1 :: ·)
  | '[' :: _ => .error ⟨position, .range⟩
  | c :: cs => (readTokens (some c) (position + 1) cs).map (.char c :: ·)
termination_by cs => cs.length
decreasing_by all_goals simp_all <;> omega

inductive Component where
  /-- A name to look up. -/
  | name (text : Text)
  /-- A name to match. -/
  | wild (tokens : List Token)
  /-- Any number of directories. -/
  | recursive
  deriving DecidableEq, Repr

def Token.literal? : Token → Option Char
  | .char c => some c
  | _ => none

def Component.ofTokens (ts : List Token) : Component :=
  if ts = [.anyPath] then .recursive
  else match ts.mapM Token.literal? with
    | some text => .name text
    | none => .wild ts

def Component.tokens : Component → List Token
  | .name text => text.map .char
  | .wild ts => ts
  | .recursive => [.anyPath]

/-- The pieces of a pattern; a slash at the end opens no further one. -/
def patternPieces (p : Text) : List Text :=
  let ps := pieces p
  if 1 < ps.length && ps.getLast? == some [] then ps.dropLast else ps

structure Pattern where
  /-- Whether the pattern starts at the root. -/
  absolute : Bool
  components : List Component
  /-- Whether the pattern ends in a slash. -/
  directoriesOnly : Bool
  deriving DecidableEq, Repr

/-- Reads a pattern: first as a whole, then each component on its own. -/
def Pattern.parse (p : Text) : Except SyntaxError Pattern := do
  let _ ← readTokens none 0 p
  let components ← (patternPieces (p.dropWhile (· == '/'))).mapM fun piece =>
    (readTokens none 0 piece).map Component.ofTokens
  return ⟨isAbsolute p, components, p.getLast? == some '/'⟩

/-! ## Matching names -/

/-- Equality up to the case of ASCII letters. -/
def sameLetter (a b : Char) : Bool := a.toLower == b.toLower

/-- Whether a character lies in a range of characters, or in a range of letters in either case. -/
def inRange (low high c : Char) : Bool :=
  low ≤ c && c ≤ high ||
    low.isAlpha && high.isAlpha && low.toLower ≤ c.toLower && c.toLower ≤ high.toLower

def Member.accepts (c : Char) : Member → Bool
  | .single d => sameLetter c d
  | .range low high => inRange low high c

/-- Whether a token for one character accepts it. Only the dot itself accepts a dot that opens
the name. -/
def Token.accepts (opening : Bool) (c : Char) : Token → Bool
  | .char d => sameLetter c d
  | .anyChar => !(opening && c == '.')
  | .within ms => !(opening && c == '.') && ms.any (Member.accepts c)
  | .except ms => !(opening && c == '.') && !ms.any (Member.accepts c)
  | .anyChars => false
  | .anyPath => false

/-- Whether tokens match a name, or the rest of a name that has been opened. -/
def matchName (opening : Bool) : List Token → Text → Bool
  | [], cs => cs.isEmpty
  | .anyChars :: ts, [] => matchName opening ts []
  | .anyChars :: ts, c :: cs =>
    matchName opening ts (c :: cs) ||
      (!(opening && c == '.') && matchName false (.anyChars :: ts) cs)
  | _ :: _, [] => false
  | t :: ts, c :: cs => t.accepts opening c && matchName false ts cs
termination_by ts cs => ts.length + cs.length

def Component.matchesName (c : Component) (name : Text) : Bool := matchName true c.tokens name

/-! ## Matching trees -/

/-- The text of a name that a wildcard may select: valid, and not hidden behind a dot. -/
def visible? (name : Bytes) : Option Text :=
  if name.head? == some dot then none else Utf8.decode? name

def entryPath (directory : FilePath) (name : Bytes) : FilePath :=
  if components directory = [.current] then name else join directory name

/-- The names in a directory that wildcards may select. -/
def visibleNames (d : Disk) (p : FilePath) : List (Bytes × Text) :=
  match d.location? p with
  | none => []
  | some loc => (d.names loc).filterMap fun n => (visible? n).map fun t => (n, t)

/-- The places below a directory that wildcards may select, with the text of the last name. -/
def visibleBelow (d : Disk) (p : FilePath) : List (Location × Text) :=
  match d.location? p with
  | none => []
  | some loc =>
    (d.below loc).filterMap fun i =>
      match i.1.mapM visible? with
      | none => none
      | some texts => texts.getLast?.map fun t => (i.1, t)

/-- The paths below a path that match some components. -/
def walk (d : Disk) : List Component → FilePath → List FilePath
  | [], p => [p]
  | .name text :: rest, p =>
    let next := entryPath p (Utf8.encode text)
    let special := text == ['.'] || text == ['.', '.']
    if if special then d.isDirectory p else d.pathExists next then walk d rest next else []
  | .wild ts :: rest, p =>
    let entries := (visibleNames d p).filter fun e => matchName true ts e.2
    let specials :=
      if ts.head? = some (.char '.') && d.isDirectory p then
        [['.'], ['.', '.']].filter (matchName true ts)
      else []
    entries.flatMap (fun e => walk d rest (entryPath p e.1)) ++
      specials.flatMap fun s => walk d rest (join p (Utf8.encode s))
  | [.recursive], p =>
    ((visibleBelow d p).map fun e => e.1.foldl entryPath p).filter d.isDirectory
  | .recursive :: .recursive :: rest, p => walk d (.recursive :: rest) p
  | .recursive :: c :: rest, p =>
    ((visibleBelow d p).filter fun e => c.matchesName e.2).flatMap fun e =>
      walk d rest (e.1.foldl entryPath p)

/-- The regular files that match a pattern, in the order of their paths. -/
def Pattern.files (d : Disk) (p : Pattern) : List FilePath :=
  let found := walk d p.components (if p.absolute then [slash] else [dot])
  let files := found.filter fun f => (d.content? f).isSome && (!p.directoriesOnly || d.isDirectory f)
  files.mergeSort fun a b => compareFiles a b != .gt

/-! ## Inputs -/

/-- Why there is nothing to process. -/
inductive InputError where
  | pattern (pattern : Text) (error : SyntaxError)
  | noMatch (pattern : Text)
  deriving DecidableEq, Repr

def InputError.message : InputError → Text
  | .pattern p e =>
    "invalid pattern `".toList ++ p ++ "`: ".toList ++ e.message
  | .noMatch p => "no files match `".toList ++ p ++ "`".toList

/-- The regular files that a pattern selects, of which there must be one. -/
def expand (d : Disk) (pattern : Text) : Except InputError (List FilePath) :=
  match Pattern.parse pattern with
  | .error e => .error (.pattern pattern e)
  | .ok p =>
    match p.files d with
    | [] => .error (.noMatch pattern)
    | files => .ok files

def defaultPattern : Text := "*.mp3".toList

/-- Whether the search of a run without paths breaks down. It reads every name in the working
directory as a text, and does not survive one that is none. -/
def breaksDown (d : Disk) (files : List FilePath) : Bool :=
  files.isEmpty && (d.location? [dot]).any fun loc =>
    (d.names loc).any fun name => (Utf8.decode? name).isNone

/-- Paths that are given are kept as they are. -/
def resolveInputs (d : Disk) (files : List FilePath) : Except InputError (List FilePath) :=
  match files with
  | [] => expand d defaultPattern
  | files => .ok files

end TagEdit.Glob
