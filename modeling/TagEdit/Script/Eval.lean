import TagEdit.Context
import TagEdit.Path
import TagEdit.Script.Syntax
import TagEdit.Text.Numeral

/-!
# Running scripts

A script takes a field's value to a new one and says whether the field's chain
goes on. Nothing can fail: an absent group is the empty text and an operand
that denotes no number counts as zero.
-/

namespace TagEdit

/-- Whether a field's chain goes on. -/
inductive Flow where
  | proceed
  | stop
  deriving DecidableEq, Repr

namespace Script

def Var.read (value : Text) (ctx : Context) : Var → Text
  | .value => value
  | .file => ctx.file
  | .length => ctx.length
  | .seconds => Text.decimal ctx.seconds

/-! ## Templates -/

/-- The change of case in force while a template is rendered. -/
structure CaseState where
  /-- For everything up to the end of the span. -/
  span : Option Casing := none
  /-- For the next character. -/
  next : Option Casing := none
  deriving DecidableEq, Repr

def CaseState.set (s : CaseState) : Modifier → CaseState
  | .next k => { s with next := some k }
  | .span k => { s with span := some k }
  | .endSpan => { s with span := none }

/-- A piece of text with the change of case applied. -/
def CaseState.apply (s : CaseState) (chunk : Text) : Text :=
  let spanned := s.span.elim chunk (Text.cast · chunk)
  s.next.elim spanned (Text.castFirst · spanned)

/-- The state after a piece of text; an empty one changes nothing. -/
def CaseState.after (s : CaseState) (chunk : Text) : CaseState :=
  if chunk.isEmpty then s else { s with next := none }

/-- The text that a piece puts in. -/
def Part.chunk (value : Text) (ctx : Context) (group : Nat → Option Text) : Part → Text
  | .text t => t
  | .var v => v.read value ctx
  | .group n => (group n).getD []
  | .modifier _ => []

/-- The text of a template from a state on. -/
def renderFrom (value : Text) (ctx : Context) (group : Nat → Option Text) (s : CaseState) :
    Template → Text
  | [] => []
  | .modifier m :: ps => renderFrom value ctx group (s.set m) ps
  | p :: ps =>
    let chunk := p.chunk value ctx group
    s.apply chunk ++ renderFrom value ctx group (s.after chunk) ps

def render (value : Text) (ctx : Context) (group : Nat → Option Text) (ps : Template) : Text :=
  renderFrom value ctx group {} ps

/-! ## Expressions and conditions -/

def Func.apply : Func → Text → Text
  | .uc => Text.upper
  | .lc => Text.lower
  | .ucfirst => Text.castFirst .upper
  | .lcfirst => Text.castFirst .lower
  | .trim => Text.trim
  | .basename => Path.baseName
  | .stem => Path.stem

def Expr.eval (value : Text) (ctx : Context) : Expr → Text
  | .plain t => t
  | .template ps => render value ctx (fun _ => none) ps
  | .int n => Text.decimal n
  | .var v => v.read value ctx
  | .call f arg => f.apply (arg.eval value ctx)
  | .concat lhs rhs => lhs.eval value ctx ++ rhs.eval value ctx

def NumOp.holds (a b : Numeral) : NumOp → Bool
  | .eq => a.eq b
  | .ne => !a.eq b
  | .lt => a.lt b
  | .le => a.le b
  | .gt => b.lt a
  | .ge => b.le a

/-- Whether a condition holds. The empty text and `0` are not true. -/
def Cond.holds (value : Text) (ctx : Context) : Cond → Bool
  | .matching subject regex negated => regex.isMatch (subject.eval value ctx) != negated
  | .text lhs negated rhs => (lhs.eval value ctx == rhs.eval value ctx) != negated
  | .number lhs op rhs =>
    op.holds (.ofText (lhs.eval value ctx)) (.ofText (rhs.eval value ctx))
  | .truthy e =>
    let v := e.eval value ctx
    !v.isEmpty && v != ['0']
  | .not c => !c.holds value ctx
  | .and a b => a.holds value ctx && b.holds value ctx
  | .or a b => a.holds value ctx || b.holds value ctx

/-! ## Statements -/

/-- Carries out an action on a value. A replacement sees the value as it was before. -/
def Action.run (ctx : Context) (value : Text) : Action → Text × Flow
  | .substitute regex replacement everywhere =>
    (regex.replace everywhere value fun m => render value ctx (m.group? value) replacement,
      .proceed)
  | .assign e => (e.eval value ctx, .proceed)
  | .append e => (value ++ e.eval value ctx, .proceed)
  | .last => (value, .stop)

def Guard.allows (ctx : Context) (value : Text) (g : Guard) : Bool :=
  g.cond.holds value ctx != g.negated

def Statement.run (ctx : Context) (value : Text) (s : Statement) : Text × Flow :=
  if s.guard.all (·.allows ctx value) then s.action.run ctx value else (value, .proceed)

/-- Carries out statements in order until one ends the chain. -/
def run (ctx : Context) (value : Text) : Script → Text × Flow
  | [] => (value, .proceed)
  | s :: rest =>
    match s.run ctx value with
    | (v, .stop) => (v, .stop)
    | (v, .proceed) => run ctx v rest

end Script

end TagEdit
