import TagEdit.Regex.Error
import TagEdit.Regex.Pattern

/-!
# The small parts of patterns

Blanks and comments, escapes, hexadecimal and decimal numbers, names and
switches: everything in a pattern that does not nest. Each reader takes the
text after the symbol that announces its part and returns the text that
follows the part. `x` says whether blanks and comments are skipped.
-/

namespace TagEdit.Regex

open Unicode

/-- Skips blanks, and comments from a number sign to the end of the line. -/
def skipBlanksFrom (inComment : Bool) : Text → Text
  | [] => []
  | c :: cs =>
    if inComment then skipBlanksFrom (c != '\n') cs
    else if isBlank c then skipBlanksFrom false cs
    else if c = '#' then skipBlanksFrom true cs
    else c :: cs

def skipBlanks (x : Bool) (cs : Text) : Text := if x then skipBlanksFrom false cs else cs

theorem length_skipBlanksFrom_le (b : Bool) (cs : Text) :
    (skipBlanksFrom b cs).length ≤ cs.length := by
  fun_induction skipBlanksFrom b cs <;> simp_all <;> omega

theorem length_skipBlanks_le (x : Bool) (cs : Text) : (skipBlanks x cs).length ≤ cs.length := by
  unfold skipBlanks
  split
  · exact length_skipBlanksFrom_le ..
  · exact Nat.le_refl _

/-- The longest run of characters of a kind, blanks between them skipped, and what follows. -/
def spanPast (x : Bool) (p : Char → Bool) : Text → Text × Text
  | [] => ([], [])
  | c :: cs =>
    if p c then
      let r := spanPast x p (skipBlanks x cs)
      (c :: r.1, r.2)
    else ([], c :: cs)
termination_by cs => cs.length
decreasing_by exact Nat.lt_succ_of_le (length_skipBlanks_le x cs)

/-- The next character that counts, for a decision. Blanks do not count, nor does the sign that
opens a comment, but the first character of the comment does. Where none counts, the very next one
decides. -/
def peekPast (x : Bool) (cs : Text) : Option Char :=
  if x then
    let counted := match cs.dropWhile isBlank with
      | '#' :: comment => comment.dropWhile isBlank
      | rest => rest
    counted.head?.or cs.head?
  else cs.head?

/-! ## Numbers -/

def hexValue? (c : Char) : Option Nat :=
  if c.isDigit then some (c.toNat - '0'.toNat)
  else if 'a' ≤ c ∧ c ≤ 'f' then some (c.toNat - 'a'.toNat + 10)
  else if 'A' ≤ c ∧ c ≤ 'F' then some (c.toNat - 'A'.toNat + 10)
  else none

def charOfCode (n : Nat) : Except Error Char :=
  if n.isValidChar then .ok (Char.ofNat n) else .error .hexInvalid

def readHexDigits (x : Bool) : Nat → Nat → Text → Except Error (Nat × Text)
  | 0, n, cs => .ok (n, cs)
  | _ + 1, _, [] => .error .escapeUnexpectedEnd
  | k + 1, n, c :: cs =>
    match hexValue? c with
    | none => .error .hexInvalidDigit
    | some v => readHexDigits x k (n * 16 + v) (skipBlanks x cs)

/-- Reads a code point in braces, after the opening one. -/
def readHexBraced (x : Bool) (cs : Text) : Except Error (Nat × Text) :=
  match spanPast x (fun c => (hexValue? c).isSome) (skipBlanks x cs) with
  | (_, []) => .error .escapeUnexpectedEnd
  | (digits, '}' :: rest) =>
    if digits.isEmpty then .error .hexEmpty
    else
      .ok (digits.foldl (fun n c => n * 16 + (hexValue? c).getD 0) 0, skipBlanks x rest)
  | _ => .error .hexInvalidDigit

/-- Reads a decimal number of at most 32 bits, blanks around it skipped; `none` if there is no
digit. -/
def readDecimal (x : Bool) (cs : Text) : Except Error (Option Nat) × Text :=
  let (digits, rest) := spanPast x Char.isDigit (cs.dropWhile isBlank)
  let rest := skipBlanks x (rest.dropWhile isBlank)
  let value : Except Error (Option Nat) :=
    if digits.isEmpty then .ok none
    else if Text.ofDigits digits < 0x100000000 then .ok (some (Text.ofDigits digits))
    else .error .decimalInvalid
  (value, rest)

/-! ## Switches and names -/

def flagOf? : Char → Option Flag
  | 'i' => some .caseInsensitive
  | 'm' => some .multiLine
  | 's' => some .dotMatchesNewLine
  | 'U' => some .swapGreed
  | 'u' => some .unicode
  | 'R' => some .crlf
  | 'x' => some .ignoreBlanks
  | _ => none

/-- Reads switches up to a colon or a closing parenthesis, which stays. `on` says whether the
next switch is turned on, and `dangling` whether a negation has just been read. -/
def readFlags (on dangling : Bool) (acc : FlagList) : Text → Except Error (FlagList × Text)
  | [] => .error .flagUnexpectedEnd
  | c :: cs =>
    if c = ':' ∨ c = ')' then
      if dangling then .error .flagDanglingNegation else .ok (acc.reverse, c :: cs)
    else if c = '-' then
      if on then readFlags false true acc cs else .error .flagRepeatedNegation
    else
      match flagOf? c with
      | none => .error .flagUnrecognized
      | some f =>
        if acc.any (·.1 == f) then .error .flagDuplicate
        else readFlags on false ((f, on) :: acc) cs

/-- The state that a list of switches brings one into. -/
def flagState? (f : Flag) (fs : FlagList) : Option Bool := (fs.find? (·.1 == f)).map (·.2)

def isNameChar (first : Bool) (c : Char) : Bool :=
  if first then c == '_' || isAlphabetic c
  else c == '_' || c == '.' || c == '[' || c == ']' || isAlphanumeric c

/-- Reads the name of a group and the angle bracket that closes it. -/
def readGroupName (cs : Text) : Except Error (Text × Text) :=
  let rec go (acc : Text) : Text → Except Error (Text × Text)
    | [] => .error .groupNameUnclosed
    | c :: cs =>
      if c = '>' then
        if acc.isEmpty then .error .groupNameEmpty else .ok (acc.reverse, cs)
      else if isNameChar acc.isEmpty c then go (c :: acc) cs
      else .error .groupNameInvalid
  go [] cs

/-! ## Escapes -/

/-- What stands for itself, outside of brackets or inside. -/
inductive Primitive where
  | literal (l : Literal)
  | dot
  | anchor (a : Anchor)
  | named (cls : NamedClass)
  deriving DecidableEq, Repr

/-- The characters that mean something in patterns. -/
def isMeta (c : Char) : Bool := "\\.+*?()|[]\x7b\x7d^$#&-~".toList.contains c

/-- Whether a backslash before a character makes it stand for itself. -/
def isEscapable (c : Char) : Bool :=
  isMeta c || c.toNat < 128 && !c.isAlphanum && c != '<' && c != '>'

/-- The set named after a property escape: a single letter, or a name in braces. -/
def readProperty (x negated : Bool) (cs : Text) : Except Error (NamedClass × Text) :=
  match skipBlanks x cs with
  | [] => .error .escapeUnexpectedEnd
  | '{' :: cs =>
    match spanPast x (· != '}') (skipBlanks x cs) with
    | (name, _ :: rest) => .ok (select name, rest)
    | (_, []) => .error .escapeUnexpectedEnd
  | '\\' :: _ => .error .propertyNameInvalid
  | c :: cs => .ok (.property [c] negated, skipBlanks x cs)
where
  /-- The parts of a name before and after the first pair of `!=`. -/
  splitUnequal : Text → Option (Text × Text)
    | '!' :: '=' :: value => some ([], value)
    | c :: cs => (splitUnequal cs).map fun p => (c :: p.1, p.2)
    | [] => none
  splitAt (sep : Char) (name : Text) : Option (Text × Text) :=
    match name.dropWhile (· != sep) with
    | [] => none
    | _ :: value => some (name.takeWhile (· != sep), value)
  select (name : Text) : NamedClass :=
    match splitUnequal name with
    | some (n, v) => .propertyValue n v !negated
    | none =>
      match (splitAt ':' name).or (splitAt '=' name) with
      | some (n, v) => .propertyValue n v negated
      | none => .property name negated

/-- Reads the braces after a word boundary. Braces that cannot hold a name are left alone. -/
def readWordBoundary (x : Bool) (cs : Text) : Except Error (Anchor × Text) :=
  let valid (c : Char) : Bool := c.isAlpha || c == '-'
  match cs with
  | '{' :: inner =>
    match skipBlanks x inner with
    | [] => .error .wordBoundaryUnexpectedEnd
    | c :: rest =>
      if valid c then
        match spanPast x valid (c :: rest) with
        | (name, '}' :: rest) =>
          match String.ofList name with
          | "start" => .ok (.wordStart, rest)
          | "end" => .ok (.wordEnd, rest)
          | "start-half" => .ok (.wordStartHalf, rest)
          | "end-half" => .ok (.wordEndHalf, rest)
          | _ => .error .wordBoundaryUnrecognized
        | _ => .error .wordBoundaryUnclosed
      else .ok (.wordBoundary, cs)
  | _ => .ok (.wordBoundary, cs)

/-- Reads a hexadecimal escape after its letter, which gives the number of digits without
braces. -/
def readHexEscape (x : Bool) (letter : Char) (cs : Text) : Except Error (Primitive × Text) :=
  match skipBlanks x cs with
  | [] => .error .escapeUnexpectedEnd
  | '{' :: cs => do
    let (n, rest) ← readHexBraced x cs
    return (.literal ⟨← charOfCode n, false⟩, rest)
  | cs => do
    let digits := if letter = 'x' then 2 else if letter = 'u' then 4 else 8
    let (n, rest) ← readHexDigits x digits 0 cs
    return (.literal ⟨← charOfCode n, letter == 'x'⟩, rest)

def readEscape (x : Bool) : Text → Except Error (Primitive × Text)
  | [] => .error .escapeUnexpectedEnd
  | c :: cs =>
    if c.isDigit then .error .backreference
    else if isEscapable c then .ok (.literal ⟨c, false⟩, cs)
    else match c with
      | 'x' | 'u' | 'U' => readHexEscape x c cs
      | 'p' | 'P' => (readProperty x (c == 'P') cs).map fun r => (.named r.1, r.2)
      | 'd' => .ok (.named (.shorthand .digit false), cs)
      | 'D' => .ok (.named (.shorthand .digit true), cs)
      | 's' => .ok (.named (.shorthand .space false), cs)
      | 'S' => .ok (.named (.shorthand .space true), cs)
      | 'w' => .ok (.named (.shorthand .word false), cs)
      | 'W' => .ok (.named (.shorthand .word true), cs)
      | 'a' => .ok (.literal ⟨'\x07', false⟩, cs)
      | 'f' => .ok (.literal ⟨'\x0c', false⟩, cs)
      | 't' => .ok (.literal ⟨'\t', false⟩, cs)
      | 'n' => .ok (.literal ⟨'\n', false⟩, cs)
      | 'r' => .ok (.literal ⟨'\r', false⟩, cs)
      | 'v' => .ok (.literal ⟨'\x0b', false⟩, cs)
      | 'A' => .ok (.anchor .startText, cs)
      | 'z' => .ok (.anchor .endText, cs)
      | 'b' => (readWordBoundary x cs).map fun r => (.anchor r.1, r.2)
      | 'B' => .ok (.anchor .notWordBoundary, cs)
      | '<' => .ok (.anchor .wordStart, cs)
      | '>' => .ok (.anchor .wordEnd, cs)
      | _ => .error .escapeUnrecognized

end TagEdit.Regex
