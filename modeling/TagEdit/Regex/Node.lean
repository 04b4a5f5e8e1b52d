import TagEdit.Text.Basic
import TagEdit.Unicode.CharSet

/-!
# What patterns mean

A `Node` says what a pattern matches with all switches worked in: fixed texts,
sets of characters, conditions on places, sequences, choices in order of
preference, repetitions and captures.

Nodes are built in a simplest form: texts side by side are one text, a sequence
in a sequence or a choice in a choice is spread out, a choice of characters or
sets is a set, and what all branches of a choice begin with is put in front.
-/

namespace TagEdit.Regex

open Unicode

/-- A condition on a place in the text. -/
inductive Look where
  | start
  | stop
  | startLine
  | endLine
  | startCrlf
  | endCrlf
  | boundary (ascii : Bool)
  | notBoundary (ascii : Bool)
  | wordStart (ascii : Bool)
  | wordEnd (ascii : Bool)
  | wordStartHalf (ascii : Bool)
  | wordEndHalf (ascii : Bool)
  deriving DecidableEq, Repr

/-- What a pattern matches. -/
inductive Node where
  | empty
  /-- A text of one character or more. -/
  | text (t : Text)
  /-- A set of no character or of more than one. -/
  | set (s : CharSet)
  | look (l : Look)
  /-- Two nodes or more, one after the other. -/
  | seq (ns : List Node)
  /-- One of two nodes or more, the first one that leads to a match preferred. -/
  | alt (ns : List Node)
  /-- The body repeated, as often as possible if greedy and as rarely otherwise. -/
  | repeat (least : Nat) (most : Option Nat) (greedy : Bool) (body : Node)
  | capture (index : Nat) (body : Node)
  deriving Repr

namespace Node

/-! ## Equality -/

mutual

def same : Node → Node → Bool
  | .empty, .empty => true
  | .text s, .text t => s == t
  | .set s, .set t => s == t
  | .look l, .look k => l == k
  | .seq ms, .seq ns => sameAll ms ns
  | .alt ms, .alt ns => sameAll ms ns
  | .repeat l m g a, .repeat l' m' g' b => l == l' && m == m' && g == g' && same a b
  | .capture i a, .capture j b => i == j && same a b
  | _, _ => false

def sameAll : List Node → List Node → Bool
  | [], [] => true
  | m :: ms, n :: ns => same m n && sameAll ms ns
  | _, _ => false

end

/-! ## Lengths -/

mutual

/-- A length that every match has at least; `none` if a part matches nothing. -/
def minLength : Node → Option Nat
  | .empty => some 0
  | .text t => some t.length
  | .set s => if s.isEmpty then none else some 1
  | .look _ => some 0
  | .seq ns => minLengthSeq ns
  | .alt ns => minLengthAlt ns
  | .repeat least _ _ body => body.minLength.map (least * ·)
  | .capture _ body => body.minLength

def minLengthSeq : List Node → Option Nat
  | [] => some 0
  | n :: ns => do return (← n.minLength) + (← minLengthSeq ns)

def minLengthAlt : List Node → Option Nat
  | [] => none
  | [n] => n.minLength
  | n :: ns => do return min (← n.minLength) (← minLengthAlt ns)

end

mutual

/-- A length that every match has at most; `none` if there is no bound or a part matches
nothing. -/
def maxLength : Node → Option Nat
  | .empty => some 0
  | .text t => some t.length
  | .set s => if s.isEmpty then none else some 1
  | .look _ => some 0
  | .seq ns => maxLengthSeq ns
  | .alt ns => maxLengthAlt ns
  | .repeat _ most _ body => do return (← most) * (← body.maxLength)
  | .capture _ body => body.maxLength

def maxLengthSeq : List Node → Option Nat
  | [] => some 0
  | n :: ns => do return (← n.maxLength) + (← maxLengthSeq ns)

def maxLengthAlt : List Node → Option Nat
  | [] => none
  | [n] => n.maxLength
  | n :: ns => do return max (← n.maxLength) (← maxLengthAlt ns)

end

/-- Whether only the empty text is matched. -/
def isEmptyOnly (n : Node) : Bool := n.maxLength == some 0

/-! ## Construction -/

/-- The node of a set; the set of one character is a text. -/
def ofSet (s : CharSet) : Node :=
  match s.ranges with
  | [(lo, hi)] => if lo = hi then .text [Char.ofNat lo] else .set s
  | _ => .set s

/-- The nodes that a sequence consists of. -/
def parts : Node → List Node
  | .empty => []
  | .seq ns => ns
  | n => [n]

/-- The nodes that a choice consists of. -/
def branches : Node → List Node
  | .alt ns => ns
  | n => [n]

/-- Puts a node in front of a sequence in which no two texts stand side by side. -/
def joinTo : Node → List Node → List Node
  | .text s, .text t :: ns => .text (s ++ t) :: ns
  | n, ns => n :: ns

def ofSeq (ns : List Node) : Node :=
  match (ns.flatMap parts).foldr joinTo [] with
  | [] => .empty
  | [n] => n
  | ns => .seq ns

/-- The characters of nodes all of which are texts of one. -/
def chars? (ns : List Node) : Option (List Char) :=
  ns.mapM fun
    | .text [c] => some c
    | _ => none

def sets? (ns : List Node) : Option (List CharSet) :=
  ns.mapM fun
    | .set s => some s
    | _ => none

def seqs? (ns : List Node) : Option (List (List Node)) :=
  ns.mapM fun
    | .seq ms => some ms
    | _ => none

/-- How many nodes two lists have in common at their front. -/
def commonLength : List Node → List Node → Nat
  | m :: ms, n :: ns => if same m n then commonLength ms ns + 1 else 0
  | _, _ => 0

/-- How many nodes several lists have in common at their front. -/
def sharedLength : List (List Node) → Nat
  | [] => 0
  | ns :: rest => rest.foldl (fun k ms => min k (commonLength ns ms)) ns.length

/-- A choice between nodes in order of preference. At most `fuel` times a common front is split
off. -/
def choose : (fuel : Nat) → List Node → Node
  | fuel, ns =>
    match ns.flatMap branches with
    | [] => .set .empty
    | [n] => n
    | ns =>
      match chars? ns with
      | some cs => ofSet (CharSet.ofRanges (cs.map fun c => (c.toNat, c.toNat)))
      | none =>
        match sets? ns with
        | some ss => ofSet (CharSet.unionAll ss)
        | none =>
          match fuel, seqs? ns with
          | fuel + 1, some ms =>
            let k := sharedLength ms
            if k = 0 then .alt ns
            else ofSeq ((ms.headD []).take k ++ [choose fuel (ms.map fun m => ofSeq (m.drop k))])
          | _, _ => .alt ns

/-- A choice between nodes in order of preference. Every front that is split off takes a part of
the first branch. -/
def ofAlt (ns : List Node) : Node := choose (ns.foldl (fun k n => k + n.parts.length) 0) ns

/-- A repetition. What matches only the empty text is repeated at most once. -/
def ofRepeat (least : Nat) (most : Option Nat) (greedy : Bool) (body : Node) : Node :=
  let (least, most) : Nat × Option Nat :=
    if body.isEmptyOnly then (min least 1, some ((most.map (min · 1)).getD 1)) else (least, most)
  if most = some 0 then .empty
  else if least = 1 ∧ most = some 1 then body
  else .repeat least most greedy body

/-! ## Conditions at the ends -/

mutual

/-- Whether every match satisfies a condition where it begins. -/
def opensWith (l : Look) : Node → Bool
  | .look k => k == l
  | .seq ns => opensWithSeq l ns
  | .alt ns => opensWithAlt l ns
  | .repeat least _ _ body => decide (0 < least) && body.opensWith l
  | .capture _ body => body.opensWith l
  | _ => false

def opensWithSeq (l : Look) : List Node → Bool
  | [] => false
  | n :: ns => n.opensWith l || (n.isEmptyOnly && opensWithSeq l ns)

def opensWithAlt (l : Look) : List Node → Bool
  | [] => true
  | n :: ns => n.opensWith l && opensWithAlt l ns

end

mutual

/-- Whether every match satisfies a condition where it ends. -/
def closesWith (l : Look) : Node → Bool
  | .look k => k == l
  | .seq ns => (closesWithSeq l ns).1
  | .alt ns => closesWithAlt l ns
  | .repeat least _ _ body => decide (0 < least) && body.closesWith l
  | .capture _ body => body.closesWith l
  | _ => false

/-- The answer for a sequence, and whether all of it matches only the empty text. -/
def closesWithSeq (l : Look) : List Node → Bool × Bool
  | [] => (false, true)
  | n :: ns =>
    let r := closesWithSeq l ns
    (r.1 || (r.2 && n.closesWith l), r.2 && n.isEmptyOnly)

def closesWithAlt (l : Look) : List Node → Bool
  | [] => true
  | n :: ns => n.closesWith l && closesWithAlt l ns

end

end Node

end TagEdit.Regex
