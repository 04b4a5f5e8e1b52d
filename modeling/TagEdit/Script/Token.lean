import TagEdit.Text.Basic

/-!
# Tokens of scripts

The words of the expression language. A substitution and a pattern match are
single tokens whose bodies are kept as written.
-/

namespace TagEdit.Script

inductive Token where
  | last
  | ifWord
  | unlessWord
  | eqWord
  | neWord
  | ident (name : Text)
  /-- A variable, without its dollar sign and braces. -/
  | var (name : Text)
  | int (n : Nat)
  /-- A single-quoted string, its escapes resolved. -/
  | plain (text : Text)
  /-- The body of a double-quoted string, as written. -/
  | interpolated (body : Text)
  | subst (pattern replacement flags : Text)
  | matching (pattern flags : Text)
  | semicolon
  | openParen
  | closeParen
  | dot
  | assign
  | dotAssign
  | bang
  | andAnd
  | orOr
  | bindMatch
  | bindNotMatch
  | numEq
  | numNe
  | lt
  | le
  | gt
  | ge
  deriving DecidableEq, Repr

/-- How messages call a token. -/
def Token.describe : Token → Text
  | .last => "`last`".toList
  | .ifWord => "`if`".toList
  | .unlessWord => "`unless`".toList
  | .eqWord => "`eq`".toList
  | .neWord => "`ne`".toList
  | .ident name => '`' :: name ++ ['`']
  | .var name => '`' :: '$' :: name ++ ['`']
  | .int n => '`' :: Text.decimal n ++ ['`']
  | .plain _ => "string".toList
  | .interpolated _ => "string".toList
  | .subst .. => "substitution".toList
  | .matching .. => "pattern match".toList
  | .semicolon => "`;`".toList
  | .openParen => "`(`".toList
  | .closeParen => "`)`".toList
  | .dot => "`.`".toList
  | .assign => "`=`".toList
  | .dotAssign => "`.=`".toList
  | .bang => "`!`".toList
  | .andAnd => "`&&`".toList
  | .orOr => "`||`".toList
  | .bindMatch => "`=~`".toList
  | .bindNotMatch => "`!~`".toList
  | .numEq => "`==`".toList
  | .numNe => "`!=`".toList
  | .lt => "`<`".toList
  | .le => "`<=`".toList
  | .gt => "`>`".toList
  | .ge => "`>=`".toList

/-- A token and the column at which it starts, counted from one. -/
structure Placed where
  token : Token
  column : Nat
  deriving DecidableEq, Repr

/-- The tokens of a source and the column after its last character. -/
structure Tokens where
  list : List Placed
  stop : Nat
  deriving DecidableEq, Repr

end TagEdit.Script
