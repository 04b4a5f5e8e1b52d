import Mathlib.Data.List.Basic
import Mathlib.Data.List.Induction
import Mathlib.Data.Nat.Digits.Defs
import TagEdit.Text.Basic

/-!
# Numbers in decimal

Digits denote a number by their places, however many zeros stand in front of them. A number is
written by the digits that denote it of which the first is no zero; there is one such text for each
number, and `Text.decimal` gives it.
-/

namespace TagEdit.Text

/-- What a digit counts for. -/
def digitValue (c : Char) : Nat := c.toNat - '0'.toNat

/-- The number that digits denote: each counts ten times as much as the one behind it. -/
def placeValue (ds : Text) : Nat := Nat.ofDigits 10 (ds.reverse.map digitValue)

/-- The text is made of the digits of a number, the first of which is no zero unless it stands
alone. -/
structure Writes (t : Text) (n : Nat) : Prop where
  ne_nil : t ≠ []
  digits : ∀ c ∈ t, c.isDigit = true
  no_zero : t.head? = some '0' → t = ['0']
  value : placeValue t = n

variable {ds t : Text} {c : Char} {n : Nat}

/-! ## Digits -/

theorem digitValue_lt (h : c.isDigit = true) : digitValue c < 10 := by
  have hbounds : 48 ≤ c.toNat ∧ c.toNat ≤ 57 := Char.isDigit_iff_toNat.mp h
  show c.toNat - 48 < 10
  omega

theorem not_mem_of_digits (hc : c.isDigit = false) (hds : ∀ d ∈ ds, d.isDigit = true) : c ∉ ds := by
  intro h
  rw [hds c h] at hc
  cases hc

theorem digitChar_digitValue (h : c.isDigit = true) : (digitValue c).digitChar = c := by
  have hbounds : 48 ≤ c.toNat ∧ c.toNat ≤ 57 := Char.isDigit_iff_toNat.mp h
  rw [← Char.toNat_inj, Nat.toNat_digitChar_of_lt_ten (digitValue_lt h)]
  show 48 + (c.toNat - 48) = c.toNat
  omega

theorem digitValue_digitChar (h : n < 10) : digitValue n.digitChar = n :=
  Nat.toNat_digitChar_sub_48_of_lt_ten h

theorem isDigit_digitChar (h : n < 10) : n.digitChar.isDigit = true := by
  rw [Nat.isDigit_digitChar, decide_eq_true h]

/-! ## The value of digits -/

theorem placeValue_concat (ds : Text) (c : Char) :
    placeValue (ds ++ [c]) = 10 * placeValue ds + digitValue c := by
  rw [placeValue, List.reverse_concat, List.map_cons, Nat.ofDigits_cons, Nat.add_comm]
  rfl

theorem placeValue_singleton (c : Char) : placeValue [c] = digitValue c := Nat.ofDigits_singleton

/-- Reading digits from the front gives the number that they denote by their places. -/
theorem ofDigits_eq_placeValue (ds : Text) : ofDigits ds = placeValue ds := by
  induction ds using List.reverseRecOn with
  | nil => rfl
  | append_singleton ds c ih => rw [placeValue_concat, ← ih, ofDigits, List.foldl_concat]; rfl

/-! ## Writing numbers -/

theorem ofDigits_decimal (n : Nat) : ofDigits (decimal n) = n := by
  rw [ofDigits, ← Nat.ofDigitChars_eq_foldl]
  exact Nat.ofDigitChars_ten_toDigits

theorem decimal_ne_nil (n : Nat) : decimal n ≠ [] := Nat.toDigits_ne_nil

theorem isDigit_of_mem_decimal (h : c ∈ decimal n) : c.isDigit = true :=
  Nat.isDigit_of_mem_toDigits (by decide) (by decide) h

theorem decimal_of_lt (h : n < 10) : decimal n = [n.digitChar] := Nat.toDigits_of_lt_base h

/-- The last digit is written behind the others. -/
theorem decimal_concat {m d : Nat} (hm : 0 < m) (hd : d < 10) :
    decimal (10 * m + d) = decimal m ++ [d.digitChar] := by
  rw [decimal, ← Nat.toDigits_append_toDigits (by decide) hm hd, Nat.toDigits_of_lt_base hd]
  rfl

theorem head?_decimal (h : 0 < n) : (decimal n).head? ≠ some '0' := by
  induction n using Nat.strongRecOn with
  | ind n ih =>
    by_cases hlt : n < 10
    · rw [decimal_of_lt hlt, List.head?_cons, ne_eq, Option.some.injEq, Nat.digitChar_eq_zero]
      omega
    · have hdiv : 0 < n / 10 := by omega
      rw [← Nat.div_add_mod n 10, decimal_concat hdiv (Nat.mod_lt _ (by decide)),
        List.head?_append_of_ne_nil _ (decimal_ne_nil _)]
      exact ih (n / 10) (by omega) hdiv

theorem writes_decimal (n : Nat) : Writes (decimal n) n where
  ne_nil := decimal_ne_nil n
  digits _ := isDigit_of_mem_decimal
  no_zero h := by
    rcases Nat.eq_zero_or_pos n with rfl | hn
    · rfl
    · exact absurd h (head?_decimal hn)
  value := by rw [← ofDigits_eq_placeValue, ofDigits_decimal]

/-- Without a zero in front, each digit in turn is the last one of the number so far. -/
theorem Writes.eq_decimal (h : Writes t n) : t = decimal n := by
  induction t using List.reverseRecOn generalizing n with
  | nil => exact absurd rfl h.ne_nil
  | append_singleton ds c ih =>
    have hc : c.isDigit = true := h.digits c (by simp)
    have hvalue := h.value
    rcases eq_or_ne ds [] with rfl | hne
    · rw [List.nil_append, placeValue_singleton] at hvalue
      rw [← hvalue, decimal_of_lt (digitValue_lt hc), digitChar_digitValue hc, List.nil_append]
    · have hhead : ds.head? ≠ some '0' := fun hzero => by
        have heq := h.no_zero (by rw [List.head?_append_of_ne_nil _ hne, hzero])
        exact hne (by simpa using congrArg List.length heq)
      have hds : ds = decimal (placeValue ds) := ih
        ⟨hne, fun d hd => h.digits d (by simp [hd]), fun hzero => absurd hzero hhead, rfl⟩
      have hpos : 0 < placeValue ds := by
        refine Nat.pos_of_ne_zero fun hzero => hhead ?_
        rw [hds, hzero]
        rfl
      rw [← hvalue, placeValue_concat, decimal_concat hpos (digitValue_lt hc), ← hds,
        digitChar_digitValue hc]

/-- One text writes a number. -/
theorem writes_iff : Writes t n ↔ t = decimal n :=
  ⟨Writes.eq_decimal, fun h => h ▸ writes_decimal n⟩

end TagEdit.Text
