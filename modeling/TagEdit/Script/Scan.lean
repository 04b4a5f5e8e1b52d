import TagEdit.Script.Error

/-!
# From text to tokens

`scan` reads one token off a text that begins with no blank, and `tokenize` a
whole source. Every fault lies in the token under way, so it is reported at
that token's column. `length_scan_le` says that a token takes up at least its
first character.
-/

namespace TagEdit.Script

open Unicode

def isNameChar (c : Char) : Bool := isAlphanumeric c || c == '_'

def isBracket (c : Char) : Bool := "()[]\x7b\x7d<>".toList.contains c

/-- Whether a character is punctuation below 128. -/
def isPunctuation (c : Char) : Bool :=
  let n := c.toNat
  33 ≤ n && n ≤ 47 || 58 ≤ n && n ≤ 64 || 91 ≤ n && n ≤ 96 || 123 ≤ n && n ≤ 126

/-- Whether a character may delimit the bodies of a substitution or a match. -/
def isDelimiter (c : Char) : Bool :=
  isPunctuation c && c != '\\' && c != '_' && !isBracket c

/-- Reads up to an unescaped delimiter and past it. Escapes are kept as written. -/
def readBody (d : Char) : Text → Option (Text × Text)
  | [] => none
  | c :: cs =>
    if c = d then some ([], cs)
    else if c = '\\' then
      match cs with
      | [] => none
      | e :: cs => (readBody d cs).map fun r => ('\\' :: e :: r.1, r.2)
    else (readBody d cs).map fun r => (c :: r.1, r.2)

/-- Reads up to a single quote and past it. A backslash escapes a quote or a backslash. -/
def readQuoted : Text → Option (Text × Text)
  | [] => none
  | c :: cs =>
    if c = '\'' then some ([], cs)
    else if c = '\\' then
      match cs with
      | '\'' :: cs => (readQuoted cs).map fun r => ('\'' :: r.1, r.2)
      | '\\' :: cs => (readQuoted cs).map fun r => ('\\' :: r.1, r.2)
      | cs => (readQuoted cs).map fun r => ('\\' :: r.1, r.2)
    else (readQuoted cs).map fun r => (c :: r.1, r.2)

/-- The largest whole number of the language. -/
def maxInt : Nat := 0x7FFFFFFFFFFFFFFF

/-- Reads a variable after its dollar sign. -/
def scanVar : Text → Except Cause (Token × Text)
  | '{' :: cs =>
    let name := cs.takeWhile isNameChar
    match cs.dropWhile isNameChar with
    | '}' :: rest => if name.isEmpty then .error .malformedVariable else .ok (.var name, rest)
    | _ => .error .malformedVariable
  | cs =>
    let name := cs.takeWhile isNameChar
    if name.isEmpty then .error .missingVariableName
    else .ok (.var name, cs.dropWhile isNameChar)

/-- Reads a whole number. A point with a digit after it would make it another number. -/
def scanInt (cs : Text) : Except Cause (Token × Text) :=
  let digits := cs.takeWhile Char.isDigit
  let rest := cs.dropWhile Char.isDigit
  let decimal := match rest with
    | '.' :: c :: _ => c.isDigit
    | _ => false
  if decimal then .error .decimalNumber
  else if maxInt < Text.ofDigits digits then .error (.integerTooLarge digits)
  else .ok (.int (Text.ofDigits digits), rest)

/-- Reads the bodies and flags of a substitution after its first delimiter. -/
def scanSubst (d : Char) (cs : Text) : Except Cause (Token × Text) :=
  match readBody d cs with
  | none => .error (.unclosed d)
  | some (pattern, cs) =>
    match readBody d cs with
    | none => .error (.unclosed d)
    | some (replacement, cs) =>
      .ok (.subst pattern replacement (cs.takeWhile Char.isAlpha), cs.dropWhile Char.isAlpha)

/-- Reads the body and flags of a match after its first delimiter. -/
def scanMatch (d : Char) (cs : Text) : Except Cause (Token × Text) :=
  match readBody d cs with
  | none => .error (.unclosed d)
  | some (pattern, cs) =>
    .ok (.matching pattern (cs.takeWhile Char.isAlpha), cs.dropWhile Char.isAlpha)

def wordToken (word : Text) : Token :=
  if word = "last".toList then .last
  else if word = "if".toList then .ifWord
  else if word = "unless".toList then .unlessWord
  else if word = "eq".toList then .eqWord
  else if word = "ne".toList then .neWord
  else .ident word

/-- Reads a word, or what a single `s` or `m` with a delimiter opens. -/
def scanWord (cs : Text) : Except Cause (Token × Text) :=
  let word := cs.takeWhile isNameChar
  let rest := cs.dropWhile isNameChar
  if word = ['s'] ∨ word = ['m'] then
    match rest with
    | [] => .ok (.ident word, [])
    | d :: body =>
      if isDelimiter d then if word = ['s'] then scanSubst d body else scanMatch d body
      else if isBracket d then .error .bracketDelimiter
      else .ok (.ident word, d :: body)
  else .ok (wordToken word, rest)

def scan (c : Char) (cs : Text) : Except Cause (Token × Text) :=
  match c with
  | ';' => .ok (.semicolon, cs)
  | '(' => .ok (.openParen, cs)
  | ')' => .ok (.closeParen, cs)
  | '.' =>
    match cs with
    | '=' :: cs => .ok (.dotAssign, cs)
    | cs => .ok (.dot, cs)
  | '=' =>
    match cs with
    | '=' :: cs => .ok (.numEq, cs)
    | '~' :: cs => .ok (.bindMatch, cs)
    | cs => .ok (.assign, cs)
  | '!' =>
    match cs with
    | '=' :: cs => .ok (.numNe, cs)
    | '~' :: cs => .ok (.bindNotMatch, cs)
    | cs => .ok (.bang, cs)
  | '<' =>
    match cs with
    | '=' :: cs => .ok (.le, cs)
    | cs => .ok (.lt, cs)
  | '>' =>
    match cs with
    | '=' :: cs => .ok (.ge, cs)
    | cs => .ok (.gt, cs)
  | '&' =>
    match cs with
    | '&' :: cs => .ok (.andAnd, cs)
    | _ => .error (.expectedPair '&')
  | '|' =>
    match cs with
    | '|' :: cs => .ok (.orOr, cs)
    | _ => .error (.expectedPair '|')
  | '$' => scanVar cs
  | '\'' =>
    match readQuoted cs with
    | none => .error (.unclosed '\'')
    | some (text, rest) => .ok (.plain text, rest)
  | '"' =>
    match readBody '"' cs with
    | none => .error (.unclosed '"')
    | some (body, rest) => .ok (.interpolated body, rest)
  | '/' => scanMatch '/' cs
  | c =>
    if c.isDigit then scanInt (c :: cs)
    else if isAlphabetic c || c == '_' then scanWord (c :: cs)
    else .error (.unexpectedCharacter c)

/-! ## The rest is shorter -/

theorem length_readBody_lt {d : Char} {cs : Text} {r : Text × Text}
    (h : readBody d cs = some r) : r.2.length < cs.length := by
  fun_induction readBody d cs generalizing r <;> grind [Option.map_eq_some_iff]

theorem length_readQuoted_lt {cs : Text} {r : Text × Text}
    (h : readQuoted cs = some r) : r.2.length < cs.length := by
  fun_induction readQuoted cs generalizing r <;> grind [Option.map_eq_some_iff]

theorem length_scanVar_le {cs : Text} {r : Token × Text} (h : scanVar cs = .ok r) :
    r.2.length ≤ cs.length := by
  unfold scanVar at h
  grind [List.dropWhile_sublist, List.Sublist.length_le]

theorem length_scanInt_le {c : Char} {cs : Text} {r : Token × Text} (hc : c.isDigit = true)
    (h : scanInt (c :: cs) = .ok r) : r.2.length ≤ cs.length := by
  unfold scanInt at h
  simp only [List.dropWhile_cons, hc, if_true] at h
  grind [List.dropWhile_sublist, List.Sublist.length_le]

theorem length_scanSubst_le {d : Char} {cs : Text} {r : Token × Text}
    (h : scanSubst d cs = .ok r) : r.2.length ≤ cs.length := by
  unfold scanSubst at h
  split at h
  · simp at h
  · rename_i h₁
    have := length_readBody_lt h₁
    split at h
    · simp at h
    · rename_i h₂
      have := length_readBody_lt h₂
      grind [List.dropWhile_sublist, List.Sublist.length_le]

theorem length_scanMatch_le {d : Char} {cs : Text} {r : Token × Text}
    (h : scanMatch d cs = .ok r) : r.2.length ≤ cs.length := by
  unfold scanMatch at h
  split at h
  · simp at h
  · rename_i h₁
    have := length_readBody_lt h₁
    grind [List.dropWhile_sublist, List.Sublist.length_le]

theorem length_scanWord_le {c : Char} {cs : Text} {r : Token × Text} (hc : isNameChar c = true)
    (h : scanWord (c :: cs) = .ok r) : r.2.length ≤ cs.length := by
  have hd : (cs.dropWhile isNameChar).length ≤ cs.length := (List.dropWhile_sublist _).length_le
  unfold scanWord at h
  simp only [List.dropWhile_cons, hc, if_true] at h
  grind [→ length_scanSubst_le, → length_scanMatch_le]

/-- A token takes up at least its first character. -/
theorem length_scan_le {c : Char} {cs : Text} {r : Token × Text} (h : scan c cs = .ok r) :
    r.2.length ≤ cs.length := by
  unfold scan at h
  split at h
  case h_11 => exact length_scanVar_le h
  case h_14 => exact length_scanMatch_le h
  case h_15 =>
    split at h
    · rename_i hc; exact length_scanInt_le hc h
    · split at h
      · rename_i hc
        refine length_scanWord_le ?_ h
        simp only [isNameChar, isAlphanumeric, Bool.or_eq_true] at hc ⊢
        rcases hc with hc | hc
        · exact .inl (.inl hc)
        · exact .inr hc
      · simp at h
  case h_12 => grind [→ length_readQuoted_lt]
  case h_13 => grind [→ length_readBody_lt]
  all_goals grind

/-! ## Whole sources -/

/-- The tokens of a text that begins at a column. -/
def tokensFrom (column : Nat) (cs : Text) : Except SyntaxError Tokens :=
  match h : cs.dropWhile isBlank with
  | [] => .ok ⟨[], column + cs.length⟩
  | c :: rest =>
    let start := column + (cs.length - (rest.length + 1))
    match hs : scan c rest with
    | .error cause => .error ⟨cause, start⟩
    | .ok (token, after) =>
      have : after.length < cs.length := by
        have h₁ := length_scan_le hs
        have h₂ : (cs.dropWhile isBlank).length ≤ cs.length := (List.dropWhile_sublist _).length_le
        rw [h] at h₂
        simp at h₁ h₂; omega
      match tokensFrom (start + (rest.length + 1 - after.length)) after with
      | .error e => .error e
      | .ok ts => .ok { ts with list := ⟨token, start⟩ :: ts.list }
termination_by cs.length

def tokenize (source : Text) : Except SyntaxError Tokens := tokensFrom 1 source

end TagEdit.Script
