import TagEdit.Script.Error
import TagEdit.Script.Scan
import TagEdit.Script.Syntax

/-!
# Templates as written

Reads the body of a double-quoted string or of a replacement. A backslash
escapes what follows it, and a dollar sign refers to a variable or, in a
replacement, to a group. The result is in normal form: no text in it is empty,
and no two texts are neighbours.
-/

namespace TagEdit.Script

open Unicode

def Template.consChar (c : Char) : Template → Template
  | .text t :: ps => .text (c :: t) :: ps
  | ps => .text [c] :: ps

/-- The largest number of a group. -/
def maxGroup : Nat := 0xFFFFFFFFFFFFFFFF

/-- The piece that a name after a dollar sign refers to. -/
def reference (groups : Bool) (name : Text) : Except Cause Part :=
  if !name.isEmpty && name.all Char.isDigit then
    if !groups then .error (.groupOutsideSubstitution name)
    else if maxGroup < Text.ofDigits name then .error (.groupTooLarge name)
    else .ok (.group (Text.ofDigits name))
  else
    match Var.ofName? name with
    | some v => .ok (.var v)
    | none => .error (.unknownVariable name)

/-- What a backslash and a character stand for: a piece or a character. -/
def escape (c : Char) : Except Cause (Modifier ⊕ Char) :=
  match c with
  | 'n' => .ok (.inr '\n')
  | 't' => .ok (.inr '\t')
  | 'r' => .ok (.inr '\r')
  | 'u' => .ok (.inl (.next .upper))
  | 'l' => .ok (.inl (.next .lower))
  | 'U' => .ok (.inl (.span .upper))
  | 'L' => .ok (.inl (.span .lower))
  | 'E' => .ok (.inl .endSpan)
  | c => if isAlphanumeric c then .error (.unknownEscape c) else .ok (.inr c)

/-- The name that follows a dollar sign, and what follows the name; `none` if the dollar sign
stands for itself. -/
def readName (cs : Text) : Except Cause (Option (Text × Text)) :=
  match cs with
  | [] => .ok none
  | '{' :: cs =>
    match cs.dropWhile (· != '}') with
    | [] => .error .unterminatedReference
    | _ :: rest => .ok (some (cs.takeWhile (· != '}'), rest))
  | '&' :: cs => .ok (some (['0'], cs))
  | c :: cs =>
    if c.isDigit then
      .ok (some ((c :: cs).takeWhile Char.isDigit, (c :: cs).dropWhile Char.isDigit))
    else if isNameChar c then
      .ok (some ((c :: cs).takeWhile isNameChar, (c :: cs).dropWhile isNameChar))
    else .ok none

theorem length_readName_le {cs : Text} {r : Text × Text} (h : readName cs = .ok (some r)) :
    r.2.length ≤ cs.length := by
  unfold readName at h
  grind [List.dropWhile_sublist, List.Sublist.length_le]

/-- The template that a body is written for. `groups` says whether it may refer to groups. -/
def Template.parse (groups : Bool) : Text → Except Cause Template
  | [] => .ok []
  | c :: cs =>
    if c = '\\' then
      match cs with
      | [] => .ok [.text ['\\']]
      | e :: cs =>
        match escape e with
        | .error cause => .error cause
        | .ok (.inl m) => (Template.parse groups cs).map (.modifier m :: ·)
        | .ok (.inr d) => (Template.parse groups cs).map (Template.consChar d)
    else if c = '$' then
      match h : readName cs with
      | .error cause => .error cause
      | .ok none => (Template.parse groups cs).map (Template.consChar '$')
      | .ok (some r) =>
        have : r.2.length ≤ cs.length := length_readName_le h
        match reference groups r.1 with
        | .error cause => .error cause
        | .ok p => (Template.parse groups r.2).map (p :: ·)
    else (Template.parse groups cs).map (Template.consChar c)
termination_by cs => cs.length
decreasing_by all_goals simp only [List.length_cons]; omega

end TagEdit.Script
