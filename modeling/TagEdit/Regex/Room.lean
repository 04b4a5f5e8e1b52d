import TagEdit.Regex.Meter
import TagEdit.Text.Utf8

/-!
# The room that patterns take up

A pattern is searched for with two automata, one for each direction of reading.
`Node.fits` says whether both stay within a limit while they are built. A choice
of very many fixed texts is searched for without automata.
-/

namespace TagEdit.Regex

/-! ## Choices of texts -/

/-- Texts that go on, in order, cut where one of them has ended: the finished cuts and the last
one. A text that has ended in front of all that go on cuts once only. -/
def cutEnded (ts : List Bytes) : List (List Bytes) × List Bytes :=
  ts.foldl (fun (cuts, open_) t =>
    match t with
    | [] =>
      if open_.isEmpty && !cuts.isEmpty && cuts.all (·.isEmpty) then (cuts, open_)
      else (cuts ++ [open_], [])
    | _ => (cuts, open_ ++ [t])) ([], [])

/-- Texts by their first bytes. -/
def groupBytes (ts : List Bytes) : List (UInt8 × List Bytes) :=
  ts.foldr (fun t groups =>
    match t with
    | [] => groups
    | b :: rest =>
      match groups.lookup b with
      | none => (b, [rest]) :: groups
      | some _ => groups.map fun g => if g.1 == b then (b, rest :: g.2) else g) []

/-- The states of a tree of texts and the bytes of their lists. A node of the tree is a fork into
its cuts and the end; a cut is one state with a transition for each first byte. -/
def treeSize : (depth : Nat) → List Bytes → Nat × Nat
  | 0, _ => (0, 0)
  | depth + 1, ts =>
    if ts.all (·.isEmpty) then (0, 0)
    else
      let (cuts, last) := cutEnded ts
      let groups := ((cuts ++ [last]).map groupBytes).filter (!·.isEmpty)
      let sizes := groups.flatten.map fun g => treeSize depth g.2
      let ofLists := groups.foldl (fun k g => if g.length = 1 then k else k + 8 * g.length)
        (4 * (groups.length + cuts.length))
      (sizes.foldl (fun k s => k + s.1) (groups.length + 1),
       sizes.foldl (fun k s => k + s.2) ofLists)

/-- The texts of nodes all of which are texts. -/
def Node.texts? (ns : List Node) : Option (List Text) :=
  ns.mapM fun
    | .text t => some t
    | _ => none

/-- The bytes of a text in the order in which they are read. -/
def orderedBytes (d : Direction) (t : Text) : Bytes :=
  match d with
  | .forward => Utf8.encode t
  | .backward => (Utf8.encode t).reverse

/-- Builds a choice of texts: their tree and its end. -/
def buildTexts? (d : Direction) (ts : List Text) (m : Meter) : Option Meter :=
  let bytes := ts.map (orderedBytes d)
  let size := treeSize ((bytes.map (·.length)).foldl max 0) bytes
  m.add? (size.1 + 1) size.2

/-! ## Nodes -/

mutual

def Node.build? (d : Direction) : Node → Meter → Option Built
  | .empty, m => (m.add? 1 0).map (⟨·, false⟩)
  | .text t, m => (m.add? (Utf8.encode t).length 0).map (⟨·, false⟩)
  | .set s, m => (buildSet? d s m).map (⟨·, false⟩)
  | .look _, m => (m.add? 1 0).map (⟨·, false⟩)
  | .seq ns, m =>
    match d with
    | .forward => Node.buildSeq? d ns ⟨m, false⟩
    | .backward => Node.buildSeqBack? d ns ⟨m, false⟩
  | .alt ns, m =>
    match Node.texts? ns with
    | some ts => (buildTexts? d ts m).map (⟨·, false⟩)
    | none => (Node.buildAlt? d ns 0 m).map (⟨·, false⟩)
  | .capture _ body, m =>
    match d with
    | .forward => do (← Node.build? d body (← m.add? 1 0)).close? 1 0 false
    | .backward => Node.build? d body m
  | .repeat 0 none _ body, m =>
    if body.minLength.any (0 < ·) then do
      (← Node.build? d body (← m.add? 1 0)).close? 0 4 true
    else do
      (← Node.build? d body m).close? 3 16 false
  | .repeat 0 (some 1) _ body, m => do
    (← Node.build? d body (← m.add? 1 0)).close? 1 8 false
  | .repeat (least + 1) none _ body, m => do
    (← Built.copies? (Node.build? d body) (least + 1) ⟨m, false⟩).close? 1 4 true
  | .repeat least (some most) _ body, m =>
    if least = most then Built.copies? (Node.build? d body) least ⟨m, false⟩
    else do
      let required ←
        if least = 0 then (m.add? 1 0).map (⟨·, false⟩)
        else Built.copies? (Node.build? d body) least ⟨m, false⟩
      let optional (m : Meter) : Option Built := do Node.build? d body (← m.add? 1 8)
      let meter ← required.meter.add? 1 0
      (← Built.copies? optional (most - least) { required with meter }).close? 0 0 false

def Node.buildSeq? (d : Direction) : List Node → Built → Option Built
  | [], b => some b
  | n :: ns, b =>
    match b.follow? (Node.build? d n) with
    | none => none
    | some c => Node.buildSeq? d ns c

def Node.buildSeqBack? (d : Direction) : List Node → Built → Option Built
  | [], b => some b
  | n :: ns, b => (Node.buildSeqBack? d ns b).bind fun c => c.follow? (Node.build? d n)

/-- Builds the rest of a choice, of which `done` branches have been built. The fork and its end
come behind the second branch. -/
def Node.buildAlt? (d : Direction) : List Node → (done : Nat) → Meter → Option Meter
  | [], _, m => some m
  | n :: ns, done, m =>
    match (Node.build? d n m).bind fun b => b.close? (if done = 1 then 2 else 0) 4 false with
    | none => none
    | some b => Node.buildAlt? d ns (done + 1) b.meter

end

/-- Whether an automaton stays within a limit. In front of the node it passes over any bytes,
unless a match has to begin where reading begins. -/
def Node.fitsIn (d : Direction) (limit : Nat) (n : Node) : Bool :=
  let bound := match d with
    | .forward => n.opensWith .start
    | .backward => n.closesWith .stop
  let whole : Option Built := do
    let front ← ({ limit } : Meter).add? (if bound then 1 else 3) (if bound then 0 else 16)
    (← Node.build? d (.capture 0 n) front).close? 1 0 false
  whole.isSome

/-- How many texts in a choice are searched for without automata. -/
def manyTexts : Nat := 3000

/-- Whether a pattern is a choice of very many texts. -/
def Node.isManyTexts : Node → Bool
  | .alt ns => (Node.texts? ns).isSome && decide (manyTexts ≤ ns.length)
  | _ => false

/-- Whether a pattern can be searched for within a limit of bytes for each automaton. -/
def Node.fits (limit : Nat) (n : Node) : Bool :=
  n.isManyTexts || (n.fitsIn .forward limit && n.fitsIn .backward limit)

end TagEdit.Regex
