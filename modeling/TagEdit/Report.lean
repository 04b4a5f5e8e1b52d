import TagEdit.Field
import TagEdit.Path

/-!
# Reports

What a run tells its user. A call to the reporter attempts one write per line:
changes and closing lines go to the output stream, unless the reporter is quiet,
and failures to the error stream. A failed write is noted with one warning per
reporter and changes nothing else.
-/

namespace TagEdit.Report

open TagEdit.Path

inductive Call where
  | fieldChange (field : Field) (old new : Text)
  | unchanged (path : FilePath)
  | updating (path : FilePath)
  | failure (path : FilePath) (message : Text)
  deriving DecidableEq, Repr

inductive Stream where
  | out
  | err
  deriving DecidableEq, Repr

def labelWidth : Nat := 7

/-- A label with blanks up to the width of the column. -/
def padLabel (label : Text) : Text := label ++ List.replicate (labelWidth - label.length) ' '

def changeLine (label value : Text) : Text :=
  padLabel label ++ " : \"".toList ++ value ++ "\"\n".toList

/-- The lines of a call, each with its stream. -/
def Call.lines : Call → List (Stream × Text)
  | .fieldChange f old new => [(.out, changeLine f.label.toList old), (.out, changeLine [] new)]
  | .unchanged p => [(.out, "Unchanged tags in ".toList ++ display p ++ ['\n'])]
  | .updating p => [(.out, "Updating tags in ".toList ++ display p ++ ['\n'])]
  | .failure p message =>
    [(.err, "retag: ".toList ++ display p ++ ": ".toList ++ message ++ ['\n'])]

def Call.writes (quiet : Bool) (c : Call) : List (Stream × Text) :=
  c.lines.filter fun w => !(quiet && w.1 == .out)

/-- What has reached the streams, and how many warnings were logged. -/
structure Delivery where
  out : Text := []
  err : Text := []
  warnings : Nat := 0
  deriving DecidableEq, Repr

def Delivery.append (a b : Delivery) : Delivery :=
  ⟨a.out ++ b.out, a.err ++ b.err, a.warnings + b.warnings⟩

instance : Append Delivery := ⟨Delivery.append⟩

/-- A reporter: whether it is quiet, how many writes it has attempted and whether a failed one
has been noted. -/
structure Reporter where
  quiet : Bool
  attempts : Nat := 0
  noted : Bool := false
  deriving DecidableEq, Repr

/-- Which writes succeed, by their number and stream. -/
abbrev Sink := Nat → Stream → Bool

def Sink.working : Sink := fun _ _ => true

namespace Reporter

def write (r : Reporter) (sink : Sink) (w : Stream × Text) : Reporter × Delivery :=
  let next := { r with attempts := r.attempts + 1 }
  if sink r.attempts w.1 then
    (next, match w.1 with
      | .out => { out := w.2 }
      | .err => { err := w.2 })
  else ({ next with noted := true }, { warnings := if r.noted then 0 else 1 })

def writeAll (r : Reporter) (sink : Sink) : List (Stream × Text) → Reporter × Delivery
  | [] => (r, {})
  | w :: ws =>
    let (r, d) := r.write sink w
    let (r, ds) := writeAll r sink ws
    (r, d ++ ds)

def tell (r : Reporter) (sink : Sink) (c : Call) : Reporter × Delivery :=
  r.writeAll sink (c.writes r.quiet)

/-- Carries out calls in order, with the delivery of each. -/
def tellAll (r : Reporter) (sink : Sink) : List Call → List Delivery
  | [] => []
  | c :: cs =>
    let (r, d) := r.tell sink c
    d :: tellAll r sink cs

end Reporter

/-- All that a fresh reporter delivers for some calls. -/
def deliver (quiet : Bool) (sink : Sink) (calls : List Call) : Delivery :=
  (Reporter.tellAll { quiet } sink calls).foldl (· ++ ·) {}

end TagEdit.Report
