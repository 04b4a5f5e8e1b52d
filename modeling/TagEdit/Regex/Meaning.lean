import TagEdit.Regex.Node
import TagEdit.Regex.Parser
import TagEdit.Unicode.Lookup
import TagEdit.Unicode.Case

/-!
# Patterns as nodes

`Node.ofPattern` works the switches into a pattern. A switch holds from where it
is written to the end of its group. Sets are resolved here: names are looked up,
cases are added where they do not count, and negation is applied last.
-/

namespace TagEdit.Regex

open Unicode

/-- The switches in force at a place of a pattern. -/
structure Switches where
  caseInsensitive : Bool := false
  multiLine : Bool := false
  dotMatchesNewLine : Bool := false
  swapGreed : Bool := false
  unicode : Bool := true
  crlf : Bool := false
  deriving DecidableEq, Repr

namespace Switches

def set (s : Switches) (f : Flag) (on : Bool) : Switches :=
  match f with
  | .caseInsensitive => { s with caseInsensitive := on }
  | .multiLine => { s with multiLine := on }
  | .dotMatchesNewLine => { s with dotMatchesNewLine := on }
  | .swapGreed => { s with swapGreed := on }
  | .unicode => { s with unicode := on }
  | .crlf => { s with crlf := on }
  | .ignoreBlanks => s

def setAll (s : Switches) (fs : FlagList) : Switches := fs.foldl (fun s f => s.set f.1 f.2) s

/-- Adds the other cases of the members, where case does not count. -/
def fold (s : Switches) (cs : CharSet) : CharSet :=
  if s.caseInsensitive then if s.unicode then cs.foldCase else cs.foldAscii else cs

/-- A set that matches characters only; without Unicode every member has to be ASCII. -/
def check (s : Switches) (cs : CharSet) : Except Error CharSet :=
  if s.unicode || cs.isAscii then .ok cs else .error .invalidUtf8

/-- Works case and negation into a set, in this order. -/
def finish (s : Switches) (negated : Bool) (cs : CharSet) : Except Error CharSet :=
  let cs := s.fold cs
  s.check (if negated then cs.negate else cs)

end Switches

/-! ## Sets -/

def Shorthand.set (unicode : Bool) : Shorthand → CharSet
  | .digit => if unicode then Category.decimalNumber.set else ⟨[(48, 57)]⟩
  | .space => if unicode then Property.whiteSpace else ⟨[(9, 13), (32, 32)]⟩
  | .word => if unicode then Property.word else ⟨[(48, 57), (65, 90), (95, 95), (97, 122)]⟩

def ofLookup : Except LookupError CharSet → Except Error CharSet
  | .ok s => .ok s
  | .error .unknownProperty => .error .unknownProperty
  | .error .unknownValue => .error .unknownPropertyValue

/-- The set that a named class stands for. The shorthands hold all cases of their members. -/
def NamedClass.resolve (s : Switches) : NamedClass → Except Error CharSet
  | .shorthand k negated =>
    let cs := k.set s.unicode
    s.check (if negated then cs.negate else cs)
  | .property name negated => do
    if !s.unicode then .error .unicodeNotAllowed
    s.finish negated (← ofLookup (Lookup.find name))
  | .propertyValue name value negated => do
    if !s.unicode then .error .unicodeNotAllowed
    s.finish negated (← ofLookup (Lookup.findValue name value))

/-- The character that a literal stands for. A byte beyond ASCII is no character. -/
def Literal.resolve (s : Switches) (l : Literal) : Except Error Char :=
  if !s.unicode && l.isByte && 128 ≤ l.char.toNat then .error .invalidUtf8 else .ok l.char

def Literal.resolveInClass (s : Switches) (l : Literal) : Except Error Char := do
  let c ← l.resolve s
  if !s.unicode && 128 ≤ c.toNat then .error .unicodeNotAllowed else return c

def SetOp.apply : SetOp → CharSet → CharSet → CharSet
  | .inter => CharSet.inter
  | .diff => CharSet.diff
  | .symmDiff => CharSet.symmDiff

mutual

def ClassItem.resolve (s : Switches) : ClassItem → Except Error CharSet
  | .empty => .ok .empty
  | .literal l => do return .single (← l.resolveInClass s).toNat
  | .range lo hi => do
    let a ← lo.resolveInClass s
    let b ← hi.resolveInClass s
    return .range a.toNat b.toNat
  | .ascii set negated => s.finish negated set
  | .named cls => cls.resolve s
  | .bracketed negated item => do s.finish negated (← item.resolve s)
  | .union items => do return .unionAll (← ClassItem.resolveAll s items)
  | .op k lhs rhs => do
    let a ← lhs.resolve s
    let b ← rhs.resolve s
    return k.apply (s.fold a) (s.fold b)

def ClassItem.resolveAll (s : Switches) : List ClassItem → Except Error (List CharSet)
  | [] => .ok []
  | item :: items => do
    let a ← item.resolve s
    let rest ← ClassItem.resolveAll s items
    return a :: rest

end

/-! ## Patterns -/

def Literal.node (s : Switches) (l : Literal) : Except Error Node := do
  let c ← l.resolve s
  return .ofSet (s.fold (.single c.toNat))

/-- What a dot matches: any character, or any that does not end a line. -/
def dotNode (s : Switches) : Except Error Node :=
  if !s.unicode then .error .invalidUtf8
  else if s.dotMatchesNewLine then .ok (.set .univ)
  else if s.crlf then .ok (.set (CharSet.compl ⟨[(10, 10), (13, 13)]⟩))
  else .ok (.set (CharSet.compl ⟨[(10, 10)]⟩))

def Anchor.look (s : Switches) : Anchor → Look
  | .startLine => if s.multiLine then if s.crlf then .startCrlf else .startLine else .start
  | .endLine => if s.multiLine then if s.crlf then .endCrlf else .endLine else .stop
  | .startText => .start
  | .endText => .stop
  | .wordBoundary => .boundary !s.unicode
  | .notWordBoundary => .notBoundary !s.unicode
  | .wordStart => .wordStart !s.unicode
  | .wordEnd => .wordEnd !s.unicode
  | .wordStartHalf => .wordStartHalf !s.unicode
  | .wordEndHalf => .wordEndHalf !s.unicode

mutual

/-- Works the switches into a pattern; the switches that hold after it are returned with it. -/
def Node.interpret (s : Switches) : Pattern → Except Error (Node × Switches)
  | .empty => .ok (.empty, s)
  | .flags fs => .ok (.empty, s.setAll fs)
  | .literal l => do return (← l.node s, s)
  | .dot => do return (← dotNode s, s)
  | .anchor a => .ok (.look (a.look s), s)
  | .named cls => do return (.ofSet (← cls.resolve s), s)
  | .bracketed negated item => do return (.ofSet (← s.finish negated (← item.resolve s)), s)
  | .repetition least most greedy body => do
    let (n, s') ← Node.interpret s body
    return (.ofRepeat least most (greedy != s'.swapGreed) n, s')
  | .group (.capture i) body => do
    let (n, _) ← Node.interpret s body
    return (.capture i n, s)
  | .group (.plain fs) body => do
    let (n, _) ← Node.interpret (s.setAll fs) body
    return (n, s)
  | .concat parts => do
    let (ns, s') ← Node.interpretAll s parts
    return (.ofSeq ns, s')
  | .alternation branches => do
    let (ns, s') ← Node.interpretAll s branches
    return (.ofAlt ns, s')

def Node.interpretAll (s : Switches) : List Pattern → Except Error (List Node × Switches)
  | [] => .ok ([], s)
  | p :: ps => do
    let (n, s) ← Node.interpret s p
    let (ns, s) ← Node.interpretAll s ps
    return (n :: ns, s)

end

/-- What a pattern matches from given switches on. -/
def Node.ofPattern (s : Switches) (p : Pattern) : Except Error Node :=
  (Node.interpret s p).map (·.1)

end TagEdit.Regex
