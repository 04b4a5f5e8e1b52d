import TagEdit.Field
import TagEdit.Script.Eval
import TagEdit.Script.Parse

/-!
# Editors

Fragments are registered for single fields or for all, in the order of the
command line. `Registry.compile` turns them into one editor per field, and stops
at the first fragment that cannot be compiled. An editor is a pipeline: each
fragment sees the value that the one before it left, and `last` ends the
pipeline.
-/

namespace TagEdit

/-- A registered edit. -/
inductive Fragment where
  /-- The source of a script. -/
  | expression (source : Text)
  /-- A fixed value; its text is never read as a script. -/
  | literal (text : Text)
  deriving DecidableEq, Repr

/-- The script that removes everything outside of printable ASCII. -/
def asciiOnly : Text := "s/[^\\x20-\\x7E]//g".toList

/-- Whom a fragment is registered for. -/
inductive Target where
  | one (f : Field)
  | every
  deriving DecidableEq, Repr

def Target.covers (f : Field) : Target → Bool
  | .one g => g == f
  | .every => true

/-- Fragments in the order of their registration. -/
structure Registry where
  entries : List (Target × Fragment) := []
  deriving DecidableEq, Repr

/-- Why a field's fragments do not compile. Fragments are counted from one. -/
structure CompileError where
  field : Field
  fragment : Nat
  error : Script.SyntaxError
  deriving DecidableEq, Repr

/-- The wording of an error, where the errors of patterns are worded by `regex`. -/
def CompileError.messageWith (regex : Regex.Error → String) (e : CompileError) : Text :=
  "cannot compile ".toList ++ e.field.name.toList ++ " expression #".toList ++
    Text.decimal e.fragment ++ ": column ".toList ++ Text.decimal e.error.column ++
    ": ".toList ++ e.error.cause.messageWith regex

def CompileError.message : CompileError → Text := messageWith Regex.Error.message

inductive Step where
  | set (text : Text)
  | run (script : Script)

/-- The compiled pipeline of one field. -/
structure Editor where
  field : Field
  steps : List Step

namespace Step

def apply (ctx : Context) (value : Text) : Step → Text × Flow
  | .set text => (text, .proceed)
  | .run script => script.run ctx value

/-- Applies steps in order until one ends the pipeline. -/
def applyAll (ctx : Context) (value : Text) : List Step → Text × Flow
  | [] => (value, .proceed)
  | s :: rest =>
    match s.apply ctx value with
    | (v, .stop) => (v, .stop)
    | (v, .proceed) => applyAll ctx v rest

end Step

namespace Editor

/-- Whether no fragment was registered for the field. -/
def isIdentity (e : Editor) : Bool := e.steps.isEmpty

def apply (e : Editor) (ctx : Context) (value : Text) : Text :=
  (Step.applyAll ctx value e.steps).1

/-- Compiles fragments of which the first has a given number. -/
def compileSteps (field : Field) (number : Nat) : List Fragment → Except CompileError (List Step)
  | [] => .ok []
  | .literal text :: rest => (compileSteps field (number + 1) rest).map (.set text :: ·)
  | .expression source :: rest =>
    match Script.parse source with
    | .error e => .error ⟨field, number, e⟩
    | .ok script => (compileSteps field (number + 1) rest).map (.run script :: ·)

def compile (field : Field) (fragments : List Fragment) : Except CompileError Editor :=
  (compileSteps field 1 fragments).map fun steps => ⟨field, steps⟩

end Editor

/-- One editor per field. -/
structure EditorSet where
  editors : List Editor

namespace EditorSet

/-- The editor of a field; a field without one is left as it is. -/
def get (s : EditorSet) (f : Field) : Editor :=
  (s.editors.find? fun e => e.field == f).getD ⟨f, []⟩

/-- Whether no fragment was registered at all. -/
def isIdentity (s : EditorSet) : Bool := s.editors.all Editor.isIdentity

end EditorSet

namespace Registry

def empty : Registry := {}

/-- Adds a fragment to the end of one field's chain. -/
def register (r : Registry) (f : Field) (frag : Fragment) : Registry :=
  ⟨r.entries ++ [(.one f, frag)]⟩

/-- Adds a fragment to the end of every field's chain. -/
def registerAll (r : Registry) (frag : Fragment) : Registry :=
  ⟨r.entries ++ [(.every, frag)]⟩

def fragments (r : Registry) (f : Field) : List Fragment :=
  r.entries.filterMap fun e => if e.1.covers f then some e.2 else none

def compileFields (r : Registry) : List Field → Except CompileError (List Editor)
  | [] => .ok []
  | f :: fs =>
    match Editor.compile f (r.fragments f) with
    | .error e => .error e
    | .ok editor => (compileFields r fs).map (editor :: ·)

/-- Compiles every field's editor in processing order, up to the first failure. -/
def compile (r : Registry) : Except CompileError EditorSet :=
  (compileFields r Field.all).map EditorSet.mk

@[simp] theorem fragments_empty (f : Field) : empty.fragments f = [] := rfl

theorem fragments_register (r : Registry) (f g : Field) (frag : Fragment) :
    (r.register f frag).fragments g =
      if f = g then r.fragments g ++ [frag] else r.fragments g := by
  by_cases h : f = g <;> simp [register, fragments, Target.covers, h]

theorem fragments_registerAll (r : Registry) (f : Field) (frag : Fragment) :
    (r.registerAll frag).fragments f = r.fragments f ++ [frag] := by
  simp [registerAll, fragments, Target.covers]

end Registry

end TagEdit
