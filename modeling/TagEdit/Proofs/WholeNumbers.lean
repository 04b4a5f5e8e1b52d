import TagEdit.Proofs.Decimals
import TagEdit.Proofs.Delimiters
import TagEdit.Proofs.Spelling

/-!
# Whole numbers in scripts

A run of digits is read to its end before anything else is asked: whether a point with a digit
behind it makes it another number, and whether it is too large. What is left is a whole number,
and its value is written without the zeros that stood in front.
-/

namespace TagEdit.Script

open Text Unicode

variable {ds after : Text} {c : Char}

/-! ## Reading digits -/

theorem scan_digit (hc : c.isDigit = true) (cs : Text) : scan c cs = scanInt (c :: cs) := by
  unfold scan
  split
  case h_15 => rw [if_pos hc]
  all_goals cases hc

theorem scanInt_digits (hds : ∀ c ∈ ds, c.isDigit = true)
    (hafter : ∀ c ∈ after.head?, c.isDigit = false) :
    scanInt (ds ++ after) =
      if fractionFollows after then .error .decimalNumber
      else if maxInt < placeValue ds then .error (.integerTooLarge ds)
      else .ok (.int (placeValue ds), after) := by
  obtain ⟨htake, hdrop⟩ := span_append hds hafter
  rw [scanInt_eq, htake, hdrop, ofDigits_eq_placeValue]

/-! ## Assigning a number -/

/-- Behind the sign of an assignment the lexer stands at the sixth column. -/
theorem reaches_assigned (cs : Text) :
    Reaches 1 ("$_ = ".toList ++ cs) [⟨.var ['_'], 1⟩, ⟨.assign, 4⟩] 6 cs := by
  have hvar : scan '$' (['_'] ++ ' ' :: '=' :: ' ' :: cs) =
      .ok (.var ['_'], ' ' :: '=' :: ' ' :: cs) := rfl
  have hassign : scan '=' ([] ++ ' ' :: cs) = .ok (.assign, ' ' :: cs) := rfl
  have hvalue : Reaches 5 (' ' :: cs) [] 6 cs := .blank (by decide) (.here 6 cs)
  have hsign : Reaches 4 ('=' :: ' ' :: cs) [⟨.assign, 4⟩] 6 cs :=
    .token (by decide) hassign hvalue
  show Reaches 1 ('$' :: (['_'] ++ ' ' :: '=' :: ' ' :: cs)) _ 6 cs
  exact .token (by decide) hvar (.blank (by decide) hsign)

theorem isBlank_of_isDigit (hc : c.isDigit = true) : isBlank c = false := by
  rw [Bool.eq_false_iff]
  intro hblank
  rw [isDigit_of_isBlank hblank] at hc
  cases hc

/-- A fault in the digits is reported at their column. -/
theorem parse_assigned_fault {cs : Text} {cause : Cause} (hc : c.isDigit = true)
    (hs : scanInt (c :: cs) = .error cause) :
    Script.parse ("$_ = ".toList ++ c :: cs) = .error ⟨cause, 6⟩ := by
  have htokens := tokenize_eq_error (reaches_assigned (c :: cs)) (isBlank_of_isDigit hc)
    ((scan_digit hc cs).trans hs)
  unfold Script.parse
  rw [htokens]
  rfl

theorem parse_assigned_number {cs : Text} {n : Nat} (hc : c.isDigit = true)
    (hs : scanInt (c :: cs) = .ok (.int n, [])) :
    Script.parse ("$_ = ".toList ++ c :: cs) = .ok [⟨.assign (.int n), none⟩] :=
  parse_of_lexes
    (lexes_assignment (.token (isBlank_of_isDigit hc) ((scan_digit hc cs).trans hs) .nil))
    (.last (.some (.bare (.assign .assign (.atom (.int n))))))

/-- An assigned run of digits compiles if its number is at most the largest one of 64 bits with a
sign, however many zeros stand in front of it, and its value is that number in decimal. A larger
number is refused at the column of its digits, and so is every run of digits that a point and a
digit follow, whatever comes behind them. -/
theorem assigned_digits_exact (hne : ds ≠ []) (hds : ∀ c ∈ ds, c.isDigit = true) (field : Field) :
    ((∃ e, Editor.compile field [.expression ("$_ = ".toList ++ ds)] = .ok e) ↔
      placeValue ds ≤ 9223372036854775807) ∧
    (∀ e, Editor.compile field [.expression ("$_ = ".toList ++ ds)] = .ok e →
      ∀ ctx value, Writes (e.apply ctx value) (placeValue ds)) ∧
    (9223372036854775807 < placeValue ds →
      Editor.compile field [.expression ("$_ = ".toList ++ ds)] =
        .error ⟨field, 1, .integerTooLarge ds, 6⟩) ∧
    ∀ (c : Char) (after : Text), c.isDigit = true →
      Editor.compile field [.expression ("$_ = ".toList ++ (ds ++ '.' :: c :: after))] =
        .error ⟨field, 1, .decimalNumber, 6⟩ := by
  obtain ⟨d, cs, rfl⟩ := List.exists_cons_of_ne_nil hne
  have hd : d.isDigit = true := hds d List.mem_cons_self
  have hscan : scanInt (d :: cs) =
      if maxInt < placeValue (d :: cs) then .error (.integerTooLarge (d :: cs))
      else .ok (.int (placeValue (d :: cs)), []) := by
    have hend := @scanInt_digits (d :: cs) [] hds nofun
    rwa [List.append_nil, if_neg (by decide)] at hend
  have hpoint : ∀ (c : Char) (after : Text), c.isDigit = true →
      Editor.compile field [.expression ("$_ = ".toList ++ (d :: cs ++ '.' :: c :: after))] =
        .error ⟨field, 1, .decimalNumber, 6⟩ := fun c after hc => by
    have hfraction : fractionFollows ('.' :: c :: after) = true := hc
    have hfault : scanInt (d :: cs ++ '.' :: c :: after) = .error .decimalNumber := by
      rw [scanInt_digits hds (by simp), if_pos hfraction]
    exact Editor.compile_expression_error (parse_assigned_fault hd hfault) field
  by_cases hlarge : maxInt < placeValue (d :: cs)
  · rw [if_pos hlarge] at hscan
    have hcompile := Editor.compile_expression_error (parse_assigned_fault hd hscan) field
    rw [hcompile]
    exact ⟨⟨nofun, fun h => absurd hlarge (Nat.not_lt.mpr h)⟩, nofun, fun _ => rfl, hpoint⟩
  · rw [if_neg hlarge] at hscan
    have hcompile := Editor.compile_expression (parse_assigned_number hd hscan) field
    rw [hcompile]
    refine ⟨⟨fun _ => Nat.not_lt.mp hlarge, fun _ => ⟨_, rfl⟩⟩, ?_, fun h => absurd h hlarge, hpoint⟩
    rintro e ⟨⟩ ctx value
    rw [Editor.apply_run_singleton]
    exact writes_decimal _

/-- The largest number, with zeros in front of it, and the next one. -/
theorem assigned_digits_exact_limit :
    (∃ e, Editor.compile .title [.expression "$_ = 0009223372036854775807".toList] = .ok e ∧
      ∀ ctx value, e.apply ctx value = "9223372036854775807".toList) ∧
    Editor.compile .title [.expression "$_ = 9223372036854775808".toList] =
      .error ⟨.title, 1, .integerTooLarge "9223372036854775808".toList, 6⟩ ∧
    Editor.compile .title [.expression "$_ = 007.5; last".toList] =
      .error ⟨.title, 1, .decimalNumber, 6⟩ := by
  have hdigits : ∀ t : Text, t.all Char.isDigit = true → ∀ c ∈ t, c.isDigit = true :=
    fun t h => List.all_eq_true.mp h
  obtain ⟨haccepted, hvalue, -⟩ := @assigned_digits_exact "0009223372036854775807".toList
    (by decide) (hdigits _ (by decide)) .title
  obtain ⟨-, -, hlarge, -⟩ := @assigned_digits_exact "9223372036854775808".toList
    (by decide) (hdigits _ (by decide)) .title
  obtain ⟨-, -, -, hpoint⟩ := @assigned_digits_exact "007".toList
    (by decide) (hdigits _ (by decide)) .title
  obtain ⟨e, he⟩ := haccepted.mpr (by decide +kernel)
  refine ⟨⟨e, he, fun ctx value => ?_⟩, hlarge (by decide +kernel),
    hpoint '5' "; last".toList (by decide)⟩
  exact (writes_iff.mp (hvalue e he ctx value)).trans (by decide +kernel)

end TagEdit.Script
