import TagEdit.Unicode.Letter

/-!
# Text

A text is the list of its characters. `Text.trim` takes the blanks off both
ends, and `Text.decimal` writes a number.
-/

namespace TagEdit

/-- A text, as the list of its characters. -/
abbrev Text := List Char

namespace Text

open Unicode

def trimLeft (t : Text) : Text := t.dropWhile isBlank

def trim (t : Text) : Text := (trimLeft (trimLeft t).reverse).reverse

/-- The decimal digits of a number, without leading zeros. -/
def decimal (n : Nat) : Text := Nat.toDigits 10 n

/-- The number that a run of decimal digits denotes. -/
def ofDigits (ds : Text) : Nat := ds.foldl (fun n c => 10 * n + (c.toNat - '0'.toNat)) 0

end Text

end TagEdit
