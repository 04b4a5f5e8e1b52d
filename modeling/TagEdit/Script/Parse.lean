import TagEdit.Script.Template

/-!
# From tokens to scripts

The grammar of scripts:

    script    := statement? (';' statement?)*
    statement := action (('if' | 'unless') cond)?
    action    := SUBST | 'last' | '$_' ('=' | '.=') expr
    cond      := and ('||' and)*
    and       := unary ('&&' unary)*
    unary     := '!' unary | '(' cond ')' | MATCH
               | expr (('=~' | '!~') MATCH | comparison expr)?
    expr      := atom ('.' atom)*
    atom      := STRING | INT | VAR | FUNC '(' expr ')'

Every reader takes the tokens from its place on and returns what is left, which
is shorter. `stop` is the column after the source, where a missing token is
reported.
-/

namespace TagEdit.Script

/-- A value read off the front of some tokens, and the fewer tokens that are left. -/
structure Parsed (α : Type) (ts : List Placed) where
  value : α
  rest : List Placed
  shorter : rest.length < ts.length

/-- A value read off tokens of which perhaps none was taken. -/
structure ParsedTail (α : Type) (ts : List Placed) where
  value : α
  rest : List Placed
  noLonger : rest.length ≤ ts.length

abbrev Parse (α : Type) (ts : List Placed) := Except SyntaxError (Parsed α ts)

/-- The error at the next token, which is not an expected one. -/
def unexpected (stop : Nat) (expected : Expected) : List Placed → SyntaxError
  | [] => ⟨.unexpectedEnd expected, stop⟩
  | t :: _ => ⟨.unexpectedToken expected t.token, t.column⟩

/-- Reads one given token. -/
def expect (stop : Nat) (token : Token) (ts : List Placed) : Parse Unit ts :=
  match ts with
  | [] => .error (unexpected stop (.token token) [])
  | t :: rest =>
    if t.token = token then .ok ⟨(), rest, by simp⟩
    else .error (unexpected stop (.token token) (t :: rest))

def resolveVar (name : Text) (column : Nat) : Except SyntaxError Var :=
  match Var.ofName? name with
  | some v => .ok v
  | none => .error ⟨.unknownVariable name, column⟩

/-- Reports a cause at a column. -/
def placeAt {α : Type} (column : Nat) : Except Cause α → Except SyntaxError α
  | .ok a => .ok a
  | .error cause => .error ⟨cause, column⟩

/-! ## Patterns -/

def matchFlags : Text := "imsx".toList

def substFlags : Text := "gimsx".toList

def optionsOf (flags : Text) : Regex.Options :=
  { caseInsensitive := flags.contains 'i'
    multiLine := flags.contains 'm'
    dotMatchesNewLine := flags.contains 's'
    ignoreBlanks := flags.contains 'x' }

/-- Builds the pattern of a token under its flags; an unknown flag is found first. -/
def buildRegex (allowed pattern flags : Text) : Except Cause Regex :=
  match flags.find? fun c => !allowed.contains c with
  | some c => .error (.unknownFlag c)
  | none =>
    match Regex.build (optionsOf flags) pattern with
    | .error e => .error (.invalidRegex pattern e)
    | .ok r => .ok r

def matchRegex (stop : Nat) (ts : List Placed) : Parse Regex ts :=
  match ts with
  | ⟨.matching pattern flags, column⟩ :: rest => do
    let r ← placeAt column (buildRegex matchFlags pattern flags)
    return ⟨r, rest, by simp⟩
  | ts => .error (unexpected stop .matching ts)

/-! ## Expressions -/

mutual

def atom (stop : Nat) (ts : List Placed) : Parse Expr ts :=
  match ts with
  | ⟨.plain t, _⟩ :: rest => .ok ⟨.plain t, rest, by simp⟩
  | ⟨.interpolated body, column⟩ :: rest => do
    let ps ← placeAt column (Template.parse false body)
    return ⟨.template ps, rest, by simp⟩
  | ⟨.int n, _⟩ :: rest => .ok ⟨.int n, rest, by simp⟩
  | ⟨.var name, column⟩ :: rest => do
    return ⟨.var (← resolveVar name column), rest, by simp⟩
  | ⟨.ident name, column⟩ :: rest =>
    match Func.ofName? name with
    | none => .error ⟨.unknownFunction name, column⟩
    | some f => do
      let opened ← expect stop .openParen rest
      have := opened.shorter
      let arg ← expr stop opened.rest
      let closed ← expect stop .closeParen arg.rest
      return ⟨.call f arg.value, closed.rest, by
        have := arg.shorter
        have := closed.shorter
        simp; omega⟩
  | ts => .error (unexpected stop .value ts)
termination_by (ts.length, 0)

def expr (stop : Nat) (ts : List Placed) : Parse Expr ts := do
  let a ← atom stop ts
  have := a.shorter
  let r ← exprTail stop a.value a.rest
  return ⟨r.value, r.rest, by have := r.noLonger; omega⟩
termination_by (ts.length, 1)

/-- Reads the further atoms of an expression that begins with `lhs`. -/
def exprTail (stop : Nat) (lhs : Expr) (ts : List Placed) :
    Except SyntaxError (ParsedTail Expr ts) :=
  match ts with
  | ⟨.dot, _⟩ :: rest => do
    let a ← atom stop rest
    have := a.shorter
    let r ← exprTail stop (.concat lhs a.value) a.rest
    return ⟨r.value, r.rest, by have := r.noLonger; simp; omega⟩
  | ts => .ok ⟨lhs, ts, Nat.le_refl _⟩
termination_by (ts.length, 0)

end

/-! ## Conditions -/

/-- The comparison of texts that a token stands for, as whether it is negated. -/
def textOp? : Token → Option Bool
  | .eqWord => some false
  | .neWord => some true
  | _ => none

/-- The comparison of numbers that a token stands for. -/
def numOp? : Token → Option NumOp
  | .numEq => some .eq
  | .numNe => some .ne
  | .lt => some .lt
  | .le => some .le
  | .gt => some .gt
  | .ge => some .ge
  | _ => none

/-- Reads what may follow the first expression of a comparison. -/
def comparisonTail (stop : Nat) (lhs : Expr) (ts : List Placed) :
    Except SyntaxError (ParsedTail Cond ts) :=
  match ts with
  | [] => .ok ⟨.truthy lhs, [], Nat.le_refl _⟩
  | t :: rest =>
    if t.token = .bindMatch ∨ t.token = .bindNotMatch then do
      let r ← matchRegex stop rest
      return ⟨.matching lhs r.value (t.token = .bindNotMatch), r.rest, by
        have := r.shorter; simp; omega⟩
    else
      match textOp? t.token with
      | some negated => do
        let r ← expr stop rest
        return ⟨.text lhs negated r.value, r.rest, by have := r.shorter; simp; omega⟩
      | none =>
        match numOp? t.token with
        | some op => do
          let r ← expr stop rest
          return ⟨.number lhs op r.value, r.rest, by have := r.shorter; simp; omega⟩
        | none => .ok ⟨.truthy lhs, t :: rest, Nat.le_refl _⟩

/-- Reads a comparison, or an expression that is tested for being true. -/
def comparison (stop : Nat) (ts : List Placed) : Parse Cond ts := do
  let lhs ← expr stop ts
  let r ← comparisonTail stop lhs.value lhs.rest
  return ⟨r.value, r.rest, by have := lhs.shorter; have := r.noLonger; omega⟩

mutual

/-- Reads a condition without connectives outside of parentheses. -/
def unaryCond (stop : Nat) (ts : List Placed) : Parse Cond ts :=
  match ts with
  | ⟨.bang, _⟩ :: rest => do
    let c ← unaryCond stop rest
    return ⟨.not c.value, c.rest, by have := c.shorter; simp; omega⟩
  | ⟨.openParen, _⟩ :: rest => do
    let c ← cond stop rest
    let closed ← expect stop .closeParen c.rest
    return ⟨c.value, closed.rest, by
      have := c.shorter
      have := closed.shorter
      simp; omega⟩
  | ⟨.matching pattern flags, column⟩ :: rest => do
    let r ← matchRegex stop (⟨.matching pattern flags, column⟩ :: rest)
    return ⟨.matching (.var .value) r.value false, r.rest, r.shorter⟩
  | ts => comparison stop ts
termination_by (ts.length, 0)

/-- Reads a condition without alternatives. -/
def andCond (stop : Nat) (ts : List Placed) : Parse Cond ts := do
  let a ← unaryCond stop ts
  have := a.shorter
  let r ← andTail stop a.value a.rest
  return ⟨r.value, r.rest, by have := r.noLonger; omega⟩
termination_by (ts.length, 1)

/-- Reads the further parts of a conjunction that begins with `lhs`. -/
def andTail (stop : Nat) (lhs : Cond) (ts : List Placed) :
    Except SyntaxError (ParsedTail Cond ts) :=
  match ts with
  | ⟨.andAnd, _⟩ :: rest => do
    let a ← unaryCond stop rest
    have := a.shorter
    let r ← andTail stop (.and lhs a.value) a.rest
    return ⟨r.value, r.rest, by have := r.noLonger; simp; omega⟩
  | ts => .ok ⟨lhs, ts, Nat.le_refl _⟩
termination_by (ts.length, 0)

def cond (stop : Nat) (ts : List Placed) : Parse Cond ts := do
  let a ← andCond stop ts
  have := a.shorter
  let r ← orTail stop a.value a.rest
  return ⟨r.value, r.rest, by have := r.noLonger; omega⟩
termination_by (ts.length, 2)

/-- Reads the further parts of a disjunction that begins with `lhs`. -/
def orTail (stop : Nat) (lhs : Cond) (ts : List Placed) :
    Except SyntaxError (ParsedTail Cond ts) :=
  match ts with
  | ⟨.orOr, _⟩ :: rest => do
    let a ← andCond stop rest
    have := a.shorter
    let r ← orTail stop (.or lhs a.value) a.rest
    return ⟨r.value, r.rest, by have := r.noLonger; simp; omega⟩
  | ts => .ok ⟨lhs, ts, Nat.le_refl _⟩
termination_by (ts.length, 0)

end

/-! ## Statements -/

/-- Reads what is assigned to the field's value. -/
def assignment (stop : Nat) (ts : List Placed) : Parse Action ts :=
  match ts with
  | ⟨.assign, _⟩ :: rest => do
    let e ← expr stop rest
    return ⟨.assign e.value, e.rest, by have := e.shorter; simp; omega⟩
  | ⟨.dotAssign, _⟩ :: rest => do
    let e ← expr stop rest
    return ⟨.append e.value, e.rest, by have := e.shorter; simp; omega⟩
  | ts => .error (unexpected stop .assignment ts)

def action (stop : Nat) (ts : List Placed) : Parse Action ts :=
  match ts with
  | ⟨.last, _⟩ :: rest => .ok ⟨.last, rest, by simp⟩
  | ⟨.subst pattern replacement flags, column⟩ :: rest => do
    let r ← placeAt column (buildRegex substFlags pattern flags)
    let ps ← placeAt column (Template.parse true replacement)
    return ⟨.substitute r ps (flags.contains 'g'), rest, by simp⟩
  | ⟨.var name, column⟩ :: rest => do
    let v ← resolveVar name column
    if v ≠ .value then .error ⟨.readOnly name, column⟩
    else
      let a ← assignment stop rest
      return ⟨a.value, a.rest, by have := a.shorter; simp; omega⟩
  | ⟨.matching _ _, column⟩ :: _ => .error ⟨.bareMatch, column⟩
  | ts => .error (unexpected stop .statement ts)

/-- Reads a guard, if there is one. -/
def guardTail (stop : Nat) (ts : List Placed) :
    Except SyntaxError (ParsedTail (Option Guard) ts) :=
  match ts with
  | ⟨.ifWord, _⟩ :: rest => do
    let c ← cond stop rest
    return ⟨some ⟨false, c.value⟩, c.rest, by have := c.shorter; simp; omega⟩
  | ⟨.unlessWord, _⟩ :: rest => do
    let c ← cond stop rest
    return ⟨some ⟨true, c.value⟩, c.rest, by have := c.shorter; simp; omega⟩
  | ts => .ok ⟨none, ts, Nat.le_refl _⟩

def statement (stop : Nat) (ts : List Placed) : Parse Statement ts := do
  let a ← action stop ts
  let g ← guardTail stop a.rest
  return ⟨⟨a.value, g.value⟩, g.rest, by have := a.shorter; have := g.noLonger; omega⟩

/-- Reads statements and the semicolons between them, to the end. -/
def statements (stop : Nat) (ts : List Placed) : Except SyntaxError Script :=
  match ts with
  | [] => .ok []
  | t :: rest =>
    if t.token = .semicolon then statements stop rest
    else do
      let s ← statement stop (t :: rest)
      match h : s.rest with
      | [] => return [s.value]
      | u :: after =>
        if u.token = .semicolon then
          have : after.length < (t :: rest).length := by
            have := s.shorter
            simp [h] at this ⊢; omega
          let more ← statements stop after
          return s.value :: more
        else .error (unexpected stop .separator (u :: after))
termination_by ts.length
decreasing_by
  · exact Nat.lt_succ_self _
  · assumption

end Script

def Script.parse (source : Text) : Except Script.SyntaxError Script := do
  let ts ← Script.tokenize source
  Script.statements ts.stop ts.list

end TagEdit
