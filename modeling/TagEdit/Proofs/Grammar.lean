import TagEdit.Script.Parse

/-!
# The grammar of scripts

`DerivesScript ts p`: the tokens `ts` are a script and `p` is what they say. One
relation for each nonterminal, one constructor for each alternative; loops such
as `atom ('.' atom)*` are left-recursive, so that they group to the left. What a
token may carry (names, flags, patterns, templates) is part of the grammar, the
verdict of the pattern builder is taken as it is.
-/

namespace TagEdit.Script

/-! ## The tokens of operators -/

def NumOp.token : NumOp → Token
  | .eq => .numEq
  | .ne => .numNe
  | .lt => .lt
  | .le => .le
  | .gt => .gt
  | .ge => .ge

/-- `=~` or `!~`. -/
def bindToken (negated : Bool) : Token := if negated then .bindNotMatch else .bindMatch

/-- `eq` or `ne`. -/
def textToken (negated : Bool) : Token := if negated then .neWord else .eqWord

/-- `if` or `unless`. -/
def guardToken (negated : Bool) : Token := if negated then .unlessWord else .ifWord

/-- `=` or `.=`, with the action that it makes of an expression. -/
inductive AssignToken : Token → (Expr → Action) → Prop where
  | assign : AssignToken .assign .assign
  | append : AssignToken .dotAssign .append

/-- A pattern and its flags give a regex. -/
def Builds (allowed pattern flags : Text) (r : Regex) : Prop :=
  (∀ c ∈ flags, c ∈ allowed) ∧ Regex.build (optionsOf flags) pattern = .ok r

/-! ## Expressions -/

mutual

inductive DerivesAtom : List Token → Expr → Prop where
  | plain (t : Text) : DerivesAtom [.plain t] (.plain t)
  | interpolated {body : Text} {ps : Template} : Template.parse false body = .ok ps →
      DerivesAtom [.interpolated body] (.template ps)
  | int (n : Nat) : DerivesAtom [.int n] (.int n)
  | var (v : Var) : DerivesAtom [.var v.name] (.var v)
  | call (f : Func) {ts : List Token} {e : Expr} : DerivesExpr ts e →
      DerivesAtom (.ident f.name :: .openParen :: (ts ++ [.closeParen])) (.call f e)

inductive DerivesExpr : List Token → Expr → Prop where
  | atom {ts : List Token} {e : Expr} : DerivesAtom ts e → DerivesExpr ts e
  | concat {ts us : List Token} {a b : Expr} : DerivesExpr ts a → DerivesAtom us b →
      DerivesExpr (ts ++ .dot :: us) (.concat a b)

end

/-! ## Conditions -/

mutual

inductive DerivesUnary : List Token → Cond → Prop where
  | not {ts : List Token} {c : Cond} : DerivesUnary ts c → DerivesUnary (.bang :: ts) (.not c)
  | paren {ts : List Token} {c : Cond} : DerivesCond ts c →
      DerivesUnary (.openParen :: (ts ++ [.closeParen])) c
  /-- A match on its own is about the field's value. -/
  | value {pattern flags : Text} {r : Regex} : Builds matchFlags pattern flags r →
      DerivesUnary [.matching pattern flags] (.matching (.var .value) r false)
  | matching {ts : List Token} {e : Expr} {pattern flags : Text} {r : Regex} (negated : Bool) :
      DerivesExpr ts e → Builds matchFlags pattern flags r →
      DerivesUnary (ts ++ [bindToken negated, .matching pattern flags]) (.matching e r negated)
  | text {ts us : List Token} {a b : Expr} (negated : Bool) : DerivesExpr ts a →
      DerivesExpr us b → DerivesUnary (ts ++ textToken negated :: us) (.text a negated b)
  | number {ts us : List Token} {a b : Expr} (op : NumOp) : DerivesExpr ts a →
      DerivesExpr us b → DerivesUnary (ts ++ op.token :: us) (.number a op b)
  | truthy {ts : List Token} {e : Expr} : DerivesExpr ts e → DerivesUnary ts (.truthy e)

inductive DerivesAnd : List Token → Cond → Prop where
  | unary {ts : List Token} {c : Cond} : DerivesUnary ts c → DerivesAnd ts c
  | and {ts us : List Token} {a b : Cond} : DerivesAnd ts a → DerivesUnary us b →
      DerivesAnd (ts ++ .andAnd :: us) (.and a b)

inductive DerivesCond : List Token → Cond → Prop where
  | and {ts : List Token} {c : Cond} : DerivesAnd ts c → DerivesCond ts c
  | or {ts us : List Token} {a b : Cond} : DerivesCond ts a → DerivesAnd us b →
      DerivesCond (ts ++ .orOr :: us) (.or a b)

end

/-! ## Statements -/

inductive DerivesAction : List Token → Action → Prop where
  | last : DerivesAction [.last] .last
  | substitute {pattern replacement flags : Text} {r : Regex} {ps : Template} :
      Builds substFlags pattern flags r → Template.parse true replacement = .ok ps →
      DerivesAction [.subst pattern replacement flags] (.substitute r ps (flags.contains 'g'))
  /-- Only the field's value can be assigned. -/
  | assign {t : Token} {mk : Expr → Action} {ts : List Token} {e : Expr} : AssignToken t mk →
      DerivesExpr ts e → DerivesAction (.var Var.value.name :: t :: ts) (mk e)

inductive DerivesStatement : List Token → Statement → Prop where
  | bare {ts : List Token} {a : Action} : DerivesAction ts a → DerivesStatement ts ⟨a, none⟩
  | guarded {ts us : List Token} {a : Action} {c : Cond} (negated : Bool) : DerivesAction ts a →
      DerivesCond us c →
      DerivesStatement (ts ++ guardToken negated :: us) ⟨a, some ⟨negated, c⟩⟩

/-- A statement or nothing. -/
inductive DerivesOptional : List Token → Script → Prop where
  | none : DerivesOptional [] []
  | some {ts : List Token} {s : Statement} : DerivesStatement ts s → DerivesOptional ts [s]

inductive DerivesScript : List Token → Script → Prop where
  | last {ts : List Token} {p : Script} : DerivesOptional ts p → DerivesScript ts p
  | cons {ts us : List Token} {p q : Script} : DerivesOptional ts p → DerivesScript us q →
      DerivesScript (ts ++ .semicolon :: us) (p ++ q)

/-! ## First tokens -/

/-- Whether a token can begin an atom. -/
def Token.beginsAtom : Token → Bool
  | .plain _ | .interpolated _ | .int _ | .var _ | .ident _ => true
  | _ => false

theorem DerivesAtom.first {ts : List Token} {e : Expr} (h : DerivesAtom ts e) :
    ∃ t us, ts = t :: us ∧ t.beginsAtom = true := by
  cases h <;> exact ⟨_, _, rfl, rfl⟩

theorem DerivesExpr.first : {ts : List Token} → {e : Expr} → DerivesExpr ts e →
    ∃ t us, ts = t :: us ∧ t.beginsAtom = true
  | _, _, .atom h => h.first
  | _, _, .concat h _ => by
    obtain ⟨t, us, rfl, ht⟩ := h.first
    exact ⟨t, _, rfl, ht⟩

/-- Whether a token can begin a statement. -/
def Token.beginsStatement : Token → Bool
  | .last | .subst .. | .var _ => true
  | _ => false

theorem DerivesStatement.first {ts : List Token} {s : Statement} (h : DerivesStatement ts s) :
    ∃ t us, ts = t :: us ∧ t.beginsStatement = true := by
  have action : ∀ {ts : List Token} {a : Action}, DerivesAction ts a →
      ∃ t us, ts = t :: us ∧ t.beginsStatement = true := by
    intro ts a h
    cases h <;> exact ⟨_, _, rfl, rfl⟩
  cases h with
  | bare h => exact action h
  | guarded negated h _ =>
    obtain ⟨t, us, rfl, ht⟩ := action h
    exact ⟨t, _, rfl, ht⟩

end TagEdit.Script
