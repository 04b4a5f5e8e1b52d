import TagEdit.Text.Basic

/-!
# The number that a text denotes

Comparisons see an operand as a binary floating-point number of 53 significant
bits. Every finite one is a whole multiple of the smallest step 2⁻¹⁰⁷⁴, so that
multiple stands for it and order is the order of integers; beyond them lie the
two infinities and the value that is no number. `ofText` reads a text, after
trimming: a decimal is rounded to the nearest value, of two nearest to the one
with the even multiple, and a text of any other form denotes zero.
-/

namespace TagEdit

/-- A binary floating-point value. -/
inductive Numeral where
  | nan
  | negInf
  /-- A whole number of the smallest step. -/
  | finite (steps : Int)
  | posInf
  deriving DecidableEq, Repr

namespace Numeral

def zero : Numeral := finite 0

def lt : Numeral → Numeral → Bool
  | nan, _ => false
  | _, nan => false
  | negInf, negInf => false
  | negInf, _ => true
  | finite _, negInf => false
  | finite a, finite b => decide (a < b)
  | finite _, posInf => true
  | posInf, _ => false

/-- Equality of values; the value that is no number differs from itself. -/
def eq : Numeral → Numeral → Bool
  | nan, _ => false
  | a, b => a == b

def le (a b : Numeral) : Bool := a.lt b || a.eq b

/-! ## Rounding -/

def precision : Nat := 53

/-- The exponent of the smallest step. -/
def stepExponent : Nat := 1074

/-- The first magnitude, in steps, that is no longer finite. -/
def overflow : Nat := Nat.pow 2 (1024 + stepExponent)

/-- The whole number nearest to a quotient, of two nearest the even one. -/
def roundDiv (num den : Nat) : Nat :=
  let q := num / den
  let r := num % den
  if 2 * r < den ∨ (2 * r = den ∧ q % 2 = 0) then q else q + 1

/-- The magnitude nearest to a quotient of steps. -/
def roundSteps (num den : Nat) : Nat :=
  let bits := Nat.log2 (num / den) + 1
  let unit := Nat.pow 2 (bits - precision)
  roundDiv num (den * unit) * unit

/-- The value of `± digits · 10 ^ exponent`. -/
def ofDecimal (negative : Bool) (digits : Nat) (exponent : Int) : Numeral :=
  let scale := Nat.pow 2 stepExponent
  let size : Int := (Text.decimal digits).length + exponent
  let steps :=
    if digits = 0 ∨ size < -400 then 0
    else if 400 < size then overflow
    else if 0 ≤ exponent then roundSteps (digits * Nat.pow 10 exponent.toNat * scale) 1
    else roundSteps (digits * scale) (Nat.pow 10 (-exponent).toNat)
  if overflow ≤ steps then if negative then negInf else posInf
  else finite (if negative then -(steps : Int) else steps)

/-! ## Reading -/

/-- The exponent written after a mantissa; no exponent counts as zero. -/
def readExponent : Text → Option Int
  | [] => some 0
  | e :: rest =>
    if e = 'e' ∨ e = 'E' then
      let (negative, ds) : Bool × Text := match rest with
        | '-' :: ds => (true, ds)
        | '+' :: ds => (false, ds)
        | ds => (false, ds)
      if ds.isEmpty || !ds.all Char.isDigit then none
      else some (if negative then -(Text.ofDigits ds : Int) else Text.ofDigits ds)
    else none

/-- Reads digits with at most one point among them, then an exponent. -/
def readDecimal (negative : Bool) (t : Text) : Option Numeral :=
  let whole := t.takeWhile Char.isDigit
  let rest := t.dropWhile Char.isDigit
  let (fraction, rest) : Text × Text := match rest with
    | '.' :: r => (r.takeWhile Char.isDigit, r.dropWhile Char.isDigit)
    | r => ([], r)
  if whole.isEmpty && fraction.isEmpty then none
  else (readExponent rest).map fun e =>
    ofDecimal negative (Text.ofDigits (whole ++ fraction)) (e - fraction.length)

/-- Reads a number without its sign. -/
def readUnsigned (negative : Bool) (t : Text) : Option Numeral :=
  let name := t.map Char.toLower
  if name = "inf".toList ∨ name = "infinity".toList then
    some (if negative then negInf else posInf)
  else if name = "nan".toList then some nan
  else readDecimal negative t

def read? : Text → Option Numeral
  | '-' :: t => readUnsigned true t
  | '+' :: t => readUnsigned false t
  | t => readUnsigned false t

/-- The number that a text denotes; a text that denotes none counts as zero. -/
def ofText (t : Text) : Numeral := (read? t.trim).getD zero

end Numeral

end TagEdit
