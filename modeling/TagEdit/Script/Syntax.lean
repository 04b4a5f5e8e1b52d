import TagEdit.Regex.Basic
import TagEdit.Text.Casing

/-!
# Scripts

What a script says: statements that change a field's value, each under an
optional guard. Names, patterns and templates are resolved, so that a script
can be run without fail.
-/

namespace TagEdit.Script

/-- The values that a script can read. Only the field's value can be assigned. -/
inductive Var where
  | value
  | file
  | length
  | seconds
  deriving DecidableEq, Repr

def Var.name : Var → Text
  | .value => "_".toList
  | .file => "file".toList
  | .length => "length".toList
  | .seconds => "seconds".toList

def Var.all : List Var := [.value, .file, .length, .seconds]

def Var.ofName? (name : Text) : Option Var := Var.all.find? fun v => v.name == name

/-- A change of case for what follows in a template. -/
inductive Modifier where
  /-- For the next character only. -/
  | next (k : Casing)
  /-- For everything up to the end of the span. -/
  | span (k : Casing)
  | endSpan
  deriving DecidableEq, Repr

inductive Part where
  | text (t : Text)
  | var (v : Var)
  /-- What a group of the match has matched. -/
  | group (n : Nat)
  | modifier (m : Modifier)
  deriving DecidableEq, Repr

/-- A text with values put into it. -/
abbrev Template := List Part

inductive Func where
  | uc
  | lc
  | ucfirst
  | lcfirst
  | trim
  | basename
  | stem
  deriving DecidableEq, Repr

def Func.name : Func → Text
  | .uc => "uc".toList
  | .lc => "lc".toList
  | .ucfirst => "ucfirst".toList
  | .lcfirst => "lcfirst".toList
  | .trim => "trim".toList
  | .basename => "basename".toList
  | .stem => "stem".toList

def Func.all : List Func := [.uc, .lc, .ucfirst, .lcfirst, .trim, .basename, .stem]

def Func.ofName? (name : Text) : Option Func := Func.all.find? fun f => f.name == name

/-- An expression; its value is a text. -/
inductive Expr where
  | plain (t : Text)
  | template (ps : Template)
  | int (n : Nat)
  | var (v : Var)
  | call (f : Func) (arg : Expr)
  | concat (lhs rhs : Expr)
  deriving DecidableEq, Repr

inductive NumOp where
  | eq
  | ne
  | lt
  | le
  | gt
  | ge
  deriving DecidableEq, Repr

inductive Cond where
  | matching (subject : Expr) (regex : Regex) (negated : Bool)
  | text (lhs : Expr) (negated : Bool) (rhs : Expr)
  | number (lhs : Expr) (op : NumOp) (rhs : Expr)
  | truthy (e : Expr)
  | not (c : Cond)
  | and (a b : Cond)
  | or (a b : Cond)

/-- What a statement does. -/
inductive Action where
  | substitute (regex : Regex) (replacement : Template) (everywhere : Bool)
  | assign (e : Expr)
  | append (e : Expr)
  /-- Ends the field's chain. -/
  | last

/-- When a statement is carried out. -/
structure Guard where
  /-- Carried out unless the condition holds. -/
  negated : Bool
  cond : Cond

structure Statement where
  action : Action
  guard : Option Guard := none

end Script

/-- A script: statements that are carried out in order. -/
abbrev Script := List Script.Statement

namespace Script

theorem Var.ofName?_name (v : Var) : Var.ofName? v.name = some v := by cases v <;> decide

theorem Func.ofName?_name (f : Func) : Func.ofName? f.name = some f := by cases f <;> decide

end TagEdit.Script
