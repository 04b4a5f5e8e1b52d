import TagEdit.Script.Token
import TagEdit.Regex.Error

/-!
# Errors in scripts

Why a script is refused, and where. `Cause.message` words each reason.
-/

namespace TagEdit.Script

/-- What would have been accepted instead. -/
inductive Expected where
  | separator
  | statement
  | assignment
  | matching
  | value
  | token (t : Token)
  deriving DecidableEq, Repr

def Expected.describe : Expected → Text
  | .separator => "`;` or end of expression".toList
  | .statement => "statement".toList
  | .assignment => "`=` or `.=`".toList
  | .matching => "pattern match".toList
  | .value => "a value".toList
  | .token t => t.describe

/-- Why a script is refused. -/
inductive Cause where
  /-- A sign that only occurs twice in a row stands alone. -/
  | expectedPair (c : Char)
  | malformedVariable
  | missingVariableName
  /-- The text ends before a delimiter that is due. -/
  | unclosed (delimiter : Char)
  | decimalNumber
  | integerTooLarge (digits : Text)
  | bracketDelimiter
  | unexpectedCharacter (c : Char)
  | unexpectedEnd (expected : Expected)
  | unexpectedToken (expected : Expected) (found : Token)
  | readOnly (name : Text)
  | bareMatch
  | unknownFunction (name : Text)
  | unknownVariable (name : Text)
  | unknownFlag (c : Char)
  | invalidRegex (pattern : Text) (error : Regex.Error)
  | unknownEscape (c : Char)
  | unterminatedReference
  | groupOutsideSubstitution (name : Text)
  | groupTooLarge (name : Text)
  deriving DecidableEq, Repr

/-- The wording of a cause, where the errors of patterns are worded by `regex`. -/
def Cause.messageWith (regex : Regex.Error → String) : Cause → Text
  | .expectedPair c => "expected `".toList ++ [c, c, '`']
  | .malformedVariable => "malformed `$\x7bname\x7d` variable".toList
  | .missingVariableName => "expected a variable name after `$`".toList
  | .unclosed d => "unexpected end of expression, expected closing `".toList ++ [d, '`']
  | .decimalNumber =>
    "decimal numbers are not supported; quote the value, e.g. '3.5'".toList
  | .integerTooLarge ds =>
    "bad integer `".toList ++ ds ++ "`: number too large to fit in target type".toList
  | .bracketDelimiter =>
    "bracketing delimiters are not supported, use e.g. `s/a/b/`".toList
  | .unexpectedCharacter c => "unexpected character `".toList ++ [c, '`']
  | .unexpectedEnd e => "unexpected end of expression, expected ".toList ++ e.describe
  | .unexpectedToken e t =>
    "expected ".toList ++ e.describe ++ ", found ".toList ++ t.describe
  | .readOnly name =>
    "`$".toList ++ name ++ "` is read-only; only `$_` can be assigned".toList
  | .bareMatch =>
    "a pattern match does nothing on its own; use it as a condition after `if`".toList
  | .unknownFunction name => "unknown function `".toList ++ name ++ ['`']
  | .unknownVariable name =>
    "unknown variable `$".toList ++ name ++
      "` (available: $_, $file, $length, $seconds)".toList
  | .unknownFlag c => "unknown regex flag `".toList ++ [c, '`']
  | .invalidRegex pattern e =>
    "invalid regex `".toList ++ pattern ++ "`: ".toList ++ (regex e).toList
  | .unknownEscape c => "unknown escape `\\".toList ++ [c] ++ "` in string".toList
  | .unterminatedReference => "unterminated `$\x7b` in string".toList
  | .groupOutsideSubstitution name =>
    "`$".toList ++ name ++ "` capture groups are only available in substitutions".toList
  | .groupTooLarge name =>
    "bad group `$".toList ++ name ++ "`: number too large to fit in target type".toList

def Cause.message : Cause → Text := messageWith Regex.Error.message

/-- A cause and the column where it was found, counted from one. -/
structure SyntaxError where
  cause : Cause
  column : Nat
  deriving DecidableEq, Repr

end TagEdit.Script
