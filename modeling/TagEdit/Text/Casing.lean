import TagEdit.Text.Basic
import TagEdit.Unicode.Case

/-!
# Casing of texts

Whole texts in upper and lower case. A character may become several, and a
capital sigma in lower case depends on its neighbours: at the end of a word it
is written in the final form.
-/

namespace TagEdit

/-- The two cases a text can be brought into. -/
inductive Casing where
  | upper
  | lower
  deriving DecidableEq, Repr

namespace Text

open Unicode

/-- Whether the nearest character that casing does not look past has a case. -/
def nearCased (cs : Text) : Bool :=
  match cs.dropWhile isCaseIgnorable with
  | [] => false
  | c :: _ => isCased c

def upper (t : Text) : Text := t.flatMap Case.upper

/-- The lower case of a character between what precedes it, nearest first, and what follows. -/
def lowerAt (before : Text) (c : Char) (after : Text) : Text :=
  if c = 'Σ' then
    if nearCased before && !nearCased after then ['ς'] else ['σ']
  else Case.lower c

/-- The lower case of a text that follows `before`, which is given nearest first. -/
def lowerFrom (before : Text) : Text → Text
  | [] => []
  | c :: rest => lowerAt before c rest ++ lowerFrom (c :: before) rest

def lower (t : Text) : Text := lowerFrom [] t

def cast : Casing → Text → Text
  | .upper => upper
  | .lower => lower

def mapFirst (f : Char → Text) : Text → Text
  | [] => []
  | c :: rest => f c ++ rest

def castFirst (k : Casing) : Text → Text := mapFirst fun c =>
  match k with
  | .upper => Case.upper c
  | .lower => Case.lower c

@[simp] theorem cast_nil (k : Casing) : cast k [] = [] := by cases k <;> rfl

@[simp] theorem upper_append (s t : Text) : upper (s ++ t) = upper s ++ upper t := by
  simp [upper]

end Text

end TagEdit
