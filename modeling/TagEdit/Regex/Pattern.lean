import TagEdit.Text.Basic
import TagEdit.Unicode.CharSet

/-!
# Patterns as written

The syntax of regular expressions: what a pattern says, before flags decide
what its parts match. `Pattern.depth` counts how deep its parts are nested.
-/

namespace TagEdit.Regex

/-- A switch inside a pattern. -/
inductive Flag where
  | caseInsensitive
  | multiLine
  | dotMatchesNewLine
  | swapGreed
  | unicode
  | crlf
  | ignoreBlanks
  deriving DecidableEq, Repr

/-- Switches with the state each is brought into. -/
abbrev FlagList := List (Flag × Bool)

/-- A character written in a pattern. -/
structure Literal where
  char : Char
  /-- Written as two hexadecimal digits, and so a byte where Unicode is off. -/
  isByte : Bool := false
  deriving DecidableEq, Repr

/-- A condition on a place in the text, as written. -/
inductive Anchor where
  | startLine
  | endLine
  | startText
  | endText
  | wordBoundary
  | notWordBoundary
  | wordStart
  | wordEnd
  | wordStartHalf
  | wordEndHalf
  deriving DecidableEq, Repr

/-- A class with a letter of its own. -/
inductive Shorthand where
  | digit
  | space
  | word
  deriving DecidableEq, Repr

/-- A set that a pattern refers to by name. -/
inductive NamedClass where
  | shorthand (kind : Shorthand) (negated : Bool)
  | property (name : Text) (negated : Bool)
  | propertyValue (name value : Text) (negated : Bool)
  deriving DecidableEq, Repr

/-- An operation between two parts of a bracketed class. -/
inductive SetOp where
  | inter
  | diff
  | symmDiff
  deriving DecidableEq, Repr

inductive ClassItem where
  | empty
  | literal (l : Literal)
  | range (lo hi : Literal)
  | ascii (set : Unicode.CharSet) (negated : Bool)
  | named (cls : NamedClass)
  | bracketed (negated : Bool) (item : ClassItem)
  | union (items : List ClassItem)
  | op (kind : SetOp) (lhs rhs : ClassItem)

/-- What a pair of parentheses is for. -/
inductive GroupKind where
  | capture (index : Nat)
  | plain (flags : FlagList)
  deriving DecidableEq, Repr

inductive Pattern where
  | empty
  /-- Switches for what follows. -/
  | flags (fs : FlagList)
  | literal (l : Literal)
  | dot
  | anchor (a : Anchor)
  | named (cls : NamedClass)
  | bracketed (negated : Bool) (item : ClassItem)
  | repetition (min : Nat) (max : Option Nat) (greedy : Bool) (body : Pattern)
  | group (kind : GroupKind) (body : Pattern)
  | concat (parts : List Pattern)
  | alternation (branches : List Pattern)

mutual

def ClassItem.depth : ClassItem → Nat
  | .bracketed _ item => item.depth + 1
  | .union items => ClassItem.maxDepth items + 1
  | .op _ lhs rhs => max lhs.depth rhs.depth + 1
  | _ => 0

def ClassItem.maxDepth : List ClassItem → Nat
  | [] => 0
  | item :: items => max item.depth (ClassItem.maxDepth items)

end

mutual

def Pattern.depth : Pattern → Nat
  | .bracketed _ item => item.depth + 1
  | .repetition _ _ _ body => body.depth + 1
  | .group _ body => body.depth + 1
  | .concat parts => Pattern.maxDepth parts + 1
  | .alternation branches => Pattern.maxDepth branches + 1
  | _ => 0

def Pattern.maxDepth : List Pattern → Nat
  | [] => 0
  | p :: ps => max p.depth (Pattern.maxDepth ps)

end

/-- The parts one after the other; a single part stands for itself. -/
def Pattern.ofParts : List Pattern → Pattern
  | [] => .empty
  | [p] => p
  | ps => .concat ps

/-- The branches of which one matches; a single branch stands for itself. -/
def Pattern.ofBranches : List Pattern → Pattern
  | [p] => p
  | ps => .alternation ps

/-- The union of the items; a single item stands for itself. -/
def ClassItem.ofItems : List ClassItem → ClassItem
  | [] => .empty
  | [i] => i
  | is => .union is

end TagEdit.Regex
