import TagEdit.Regex.Node

/-!
# Matching programs

A node is compiled into instructions that name their successors. `compile`
builds from the end: it takes the instruction to go on with and returns the one
to begin with. A loop whose body may match nothing is compiled as an optional
loop that runs at least once, so that an empty round ends it.
-/

namespace TagEdit.Regex

open Unicode

inductive Instr where
  /-- Takes up a character of the set. -/
  | take (s : CharSet) (next : Nat)
  /-- Goes on at either place, the first one preferred. -/
  | fork (first second : Nat)
  /-- Notes the place in the text. -/
  | save (slot next : Nat)
  /-- Goes on if the place in the text meets a condition. -/
  | look (l : Look) (next : Nat)
  | accept
  deriving Repr

structure Program where
  code : Array Instr
  start : Nat

namespace Program

/-- Instructions under construction, with the one to begin with. -/
abbrev Part := Nat × Array Instr

/-- Adds an instruction in front. -/
def emit (i : Instr) (code : Array Instr) : Part := (code.size, code.push i)

/-- A fork into a loop and out of it, in order of preference. -/
def forkTo (greedy : Bool) (inside outside : Nat) : Instr :=
  if greedy then .fork inside outside else .fork outside inside

def times (f : Part → Part) : Nat → Part → Part
  | 0, p => p
  | n + 1, p => times f n (f p)

/-- A loop that runs at least once: returns its first instruction. -/
def loop (body : Part → Part) (greedy : Bool) (p : Part) : Part :=
  let fork := p.2.size
  let b := body (fork, p.2.push .accept)
  (b.1, b.2.setIfInBounds fork (forkTo greedy b.1 p.1))

/-- A loop that may run no time and whose body takes up a character. -/
def star (body : Part → Part) (greedy : Bool) (p : Part) : Part :=
  let fork := p.2.size
  let b := body (fork, p.2.push .accept)
  (fork, b.2.setIfInBounds fork (forkTo greedy b.1 p.1))

/-- A body that is passed over or run. -/
def optional (body : Part → Part) (greedy : Bool) (after : Nat) (p : Part) : Part :=
  let b := body p
  emit (forkTo greedy b.1 after) b.2

def compileText (t : Text) (p : Part) : Part :=
  t.foldr (fun c p => emit (.take (.single c.toNat) p.1) p.2) p

mutual

/-- Compiles a node in front of the instructions so far. -/
def compile : Node → Part → Part
  | .empty, p => p
  | .text t, p => compileText t p
  | .set s, p => emit (.take s p.1) p.2
  | .look l, p => emit (.look l p.1) p.2
  | .seq ns, p => compileSeq ns p
  | .alt ns, p => compileAlt ns p
  | .capture i body, p =>
    let q := emit (.save (2 * i + 1) p.1) p.2
    let r := compile body q
    emit (.save (2 * i) r.1) r.2
  | .repeat least none greedy body, p =>
    if least = 0 then
      if body.minLength.any (0 < ·) then star (compile body) greedy p
      else optional (loop (compile body) greedy) greedy p.1 p
    else times (compile body) (least - 1) (loop (compile body) greedy p)
  | .repeat least (some most) greedy body, p =>
    times (compile body) least
      (times (optional (compile body) greedy p.1) (most - least) p)

def compileSeq : List Node → Part → Part
  | [], p => p
  | n :: ns, p => compile n (compileSeq ns p)

/-- Compiles the branches of a choice, all of which go on at the same instruction. -/
def compileAlt : List Node → Part → Part
  | [], p => emit (.take .empty p.1) p.2
  | [n], p => compile n p
  | n :: ns, p =>
    let q := compileAlt ns p
    let r := compile n (p.1, q.2)
    emit (.fork r.1 q.1) r.2

end

/-- The program of a node, with the whole match as capture nought. -/
def ofNode (n : Node) : Program :=
  let p := compile (.capture 0 n) (emit .accept #[])
  ⟨p.2, p.1⟩

end Program

end TagEdit.Regex
