import TagEdit.Proofs.Classes
import TagEdit.Proofs.Lexing
import TagEdit.Text.Numeral

/-!
# The texts that denote a number

A number is written as digits with at most one point among them and perhaps an exponent, or it is
an infinity by its name; a sign may stand in front. The value that is no number has a name too. It
is read as that value, where any other text that denotes no number is not read at all.
-/

namespace TagEdit

namespace Numeral

/-! ## Spellings -/

/-- An optional sign, and whether it is a minus. -/
inductive IsSign : Bool → Text → Prop
  | absent : IsSign false []
  | plus : IsSign false ['+']
  | minus : IsSign true ['-']

/-- Digits, perhaps none. -/
def AllDigits (ds : Text) : Prop := ∀ c ∈ ds, c.isDigit = true

theorem allDigits_iff (ds : Text) : ds.all Char.isDigit = true ↔ AllDigits ds := List.all_eq_true

/-- What may stand behind the digits. -/
inductive IsExponent : Text → Prop
  | absent : IsExponent []
  | present {e : Char} {negative : Bool} {sign ds : Text} (he : e = 'e' ∨ e = 'E')
      (hsign : IsSign negative sign) (hds : AllDigits ds) (hne : ds ≠ []) :
      IsExponent (e :: (sign ++ ds))

/-- Digits with at most one point among them, and an exponent. -/
inductive IsDecimal : Text → Prop
  | whole {ds x : Text} (hds : AllDigits ds) (hne : ds ≠ []) (hx : IsExponent x) :
      IsDecimal (ds ++ x)
  | pointed {ds fs x : Text} (hds : AllDigits ds) (hfs : AllDigits fs) (hne : ds ++ fs ≠ [])
      (hx : IsExponent x) : IsDecimal (ds ++ '.' :: (fs ++ x))

/-- A name of the infinities, in any case. -/
def NamesInfinity (t : Text) : Prop :=
  t.map Char.toLower = "inf".toList ∨ t.map Char.toLower = "infinity".toList

/-- The name of the value that is no number, in any case. -/
def NamesNan (t : Text) : Prop := t.map Char.toLower = "nan".toList

/-- A text that denotes a number. -/
def SpellsNumber (t : Text) : Prop :=
  ∃ negative sign u, IsSign negative sign ∧ t = sign ++ u ∧ (IsDecimal u ∨ NamesInfinity u)

/-- A text that denotes the value that is no number. -/
def SpellsNan (t : Text) : Prop :=
  ∃ negative sign u, IsSign negative sign ∧ t = sign ++ u ∧ NamesNan u

variable {negative : Bool} {sign t u ds fs x : Text}

/-! ## Signs -/

/-- Whether there is a minus in front of a text, and what comes after its sign. -/
def takeSign : Text → Bool × Text
  | '-' :: t => (true, t)
  | '+' :: t => (false, t)
  | t => (false, t)

theorem exists_sign (t : Text) :
    ∃ sign, IsSign (takeSign t).1 sign ∧ t = sign ++ (takeSign t).2 := by
  unfold takeSign
  split
  · exact ⟨_, .minus, rfl⟩
  · exact ⟨_, .plus, rfl⟩
  · exact ⟨_, .absent, rfl⟩

theorem takeSign_of_ne (hu : ∀ c ∈ u.head?, c ≠ '-' ∧ c ≠ '+') : takeSign u = (false, u) := by
  unfold takeSign
  split
  · exact absurd rfl (hu _ rfl).1
  · exact absurd rfl (hu _ rfl).2
  · rfl

theorem takeSign_append (hsign : IsSign negative sign) (hu : ∀ c ∈ u.head?, c ≠ '-' ∧ c ≠ '+') :
    takeSign (sign ++ u) = (negative, u) := by
  cases hsign with
  | absent => exact takeSign_of_ne hu
  | plus => rfl
  | minus => rfl

theorem read?_eq (t : Text) : read? t = readUnsigned (takeSign t).1 (takeSign t).2 := by
  unfold read?
  split
  · rfl
  · rfl
  · simp [takeSign]

/-! ## Decimals -/

theorem ne_sign_of_isDigit {c : Char} (h : c.isDigit = true) : c ≠ '-' ∧ c ≠ '+' := by
  constructor <;> rintro rfl <;> simp at h

theorem head_of_isExponent (hx : IsExponent x) :
    ∀ c ∈ x.head?, c.isDigit = false ∧ c ≠ '.' := by
  cases hx with
  | absent => simp
  | present he =>
    rintro c hc
    obtain rfl := Option.some.inj hc
    rcases he with rfl | rfl <;> decide

theorem readExponent_cons_isSome (e : Char) (rest : Text) :
    (readExponent (e :: rest)).isSome = true ↔
      (e = 'e' ∨ e = 'E') ∧ AllDigits (takeSign rest).2 ∧ (takeSign rest).2 ≠ [] := by
  have hread : readExponent (e :: rest) =
      if e = 'e' ∨ e = 'E' then
        if (takeSign rest).2.isEmpty || !(takeSign rest).2.all Char.isDigit then none
        else some (if (takeSign rest).1 then -(Text.ofDigits (takeSign rest).2 : Int)
          else Text.ofDigits (takeSign rest).2)
      else none := rfl
  rw [hread]
  by_cases he : e = 'e' ∨ e = 'E'
  · rw [if_pos he, ← allDigits_iff]
    rcases (takeSign rest).2.all Char.isDigit with _ | _ <;> simp [he]
  · simp [he]

theorem readExponent_isSome_iff (x : Text) : (readExponent x).isSome = true ↔ IsExponent x := by
  rcases x with _ | ⟨e, rest⟩
  · exact iff_of_true rfl .absent
  rw [readExponent_cons_isSome]
  constructor
  · rintro ⟨he, hds, hne⟩
    obtain ⟨sign, hsign, heq⟩ := exists_sign rest
    rw [heq]
    exact .present he hsign hds hne
  · rintro (_ | ⟨he, hsign, hds, hne⟩)
    rw [takeSign_append hsign fun c hc => ne_sign_of_isDigit (hds c (List.mem_of_mem_head? hc))]
    exact ⟨he, hds, hne⟩

/-- The digits behind a point, and what comes after them. -/
def takeFraction : Text → Text × Text
  | '.' :: r => (r.takeWhile Char.isDigit, r.dropWhile Char.isDigit)
  | r => ([], r)

theorem takeFraction_of_ne (hx : ∀ c ∈ x.head?, c ≠ '.') : takeFraction x = ([], x) := by
  unfold takeFraction
  split
  · exact absurd rfl (hx _ rfl)
  · rfl

theorem takeFraction_point (hfs : AllDigits fs) (hx : ∀ c ∈ x.head?, c.isDigit = false) :
    takeFraction ('.' :: (fs ++ x)) = (fs, x) :=
  Prod.ext (Script.span_append hfs hx).1 (Script.span_append hfs hx).2

theorem readDecimal_eq (negative : Bool) (t : Text) : readDecimal negative t =
    let whole := t.takeWhile Char.isDigit
    let (fraction, x) := takeFraction (t.dropWhile Char.isDigit)
    if whole.isEmpty && fraction.isEmpty then none
    else (readExponent x).map fun e =>
      ofDecimal negative (Text.ofDigits (whole ++ fraction)) (e - fraction.length) := rfl

theorem readDecimal_isSome_of_take (hwhole : t.takeWhile Char.isDigit = ds)
    (hfraction : takeFraction (t.dropWhile Char.isDigit) = (fs, x)) :
    (readDecimal negative t).isSome = true ↔ ds ++ fs ≠ [] ∧ IsExponent x := by
  rw [readDecimal_eq, hwhole, hfraction, ← readExponent_isSome_iff]
  rcases ds with _ | ⟨d, ds⟩ <;> rcases fs with _ | ⟨f, fs⟩ <;> simp

/-- Digits are read if and only if they are written as a decimal. -/
theorem readDecimal_isSome_iff (negative : Bool) (t : Text) :
    (readDecimal negative t).isSome = true ↔ IsDecimal t := by
  constructor
  · intro h
    have hds : AllDigits (t.takeWhile Char.isDigit) := fun c hc => List.mem_takeWhile_imp hc
    rw [← List.takeWhile_append_dropWhile (p := Char.isDigit) (l := t)]
    by_cases hx : ∀ c ∈ (t.dropWhile Char.isDigit).head?, c ≠ '.'
    · obtain ⟨hne, hexp⟩ := (readDecimal_isSome_of_take rfl (takeFraction_of_ne hx)).mp h
      rw [List.append_nil] at hne
      exact .whole hds hne hexp
    · obtain ⟨r, hr⟩ : ∃ r, t.dropWhile Char.isDigit = '.' :: r := by
        simpa [List.head?_eq_some_iff] using hx
      obtain ⟨hne, hexp⟩ := (readDecimal_isSome_of_take rfl (congrArg takeFraction hr)).mp h
      rw [hr, ← List.takeWhile_append_dropWhile (p := Char.isDigit) (l := r)]
      exact .pointed hds (fun c hc => List.mem_takeWhile_imp hc) hne hexp
  · intro ht
    cases ht with
    | whole hds hne hx =>
      have hend := head_of_isExponent hx
      obtain ⟨htake, hdrop⟩ := Script.span_append hds fun c hc => (hend c hc).1
      have hfraction := (congrArg takeFraction hdrop).trans
        (takeFraction_of_ne fun c hc => (hend c hc).2)
      exact (readDecimal_isSome_of_take htake hfraction).mpr ⟨by simpa using hne, hx⟩
    | pointed hds hfs hne hx =>
      obtain ⟨htake, hdrop⟩ := Script.span_append (m := '.' :: (_ ++ _)) hds (by simp)
      have hfraction := (congrArg takeFraction hdrop).trans
        (takeFraction_point hfs fun c hc => (head_of_isExponent hx c hc).1)
      exact (readDecimal_isSome_of_take htake hfraction).mpr ⟨hne, hx⟩

/-! ## Names -/

theorem ofDecimal_ne_nan (negative : Bool) (digits : Nat) (exponent : Int) :
    ofDecimal negative digits exponent ≠ nan := by
  unfold ofDecimal
  extract_lets scale size steps
  by_cases hbig : overflow ≤ steps
  · rw [if_pos hbig]
    cases negative <;> nofun
  · rw [if_neg hbig]
    nofun

theorem readDecimal_ne_nan (negative : Bool) (t : Text) : readDecimal negative t ≠ some nan := by
  rw [readDecimal_eq]
  dsimp only
  split_ifs
  · exact Option.some_ne_none _ ∘ Eq.symm
  · simp [ofDecimal_ne_nan]

theorem isAlpha_of_isLower_toLower {c : Char} (h : c.toLower.isLower = true) :
    c.isAlpha = true := by
  by_cases hupper : c.isUpper = true
  · exact Bool.or_eq_true_iff.mpr (.inl hupper)
  · have hself : c.toLower = c := dif_neg fun hc => hupper (decide_eq_true hc)
    rw [hself] at h
    exact Bool.or_eq_true_iff.mpr (.inr h)

theorem head_of_name (hu : NamesInfinity u ∨ NamesNan u) :
    ∃ c rest, u = c :: rest ∧ c.isAlpha = true := by
  have hlower : ∀ {a : Char} {name : Text}, a.isLower = true → u.map Char.toLower = a :: name →
      ∃ c rest, u = c :: rest ∧ c.isAlpha = true := by
    intro a name ha hname
    obtain ⟨c, rest, rfl, rfl, -⟩ := List.map_eq_cons_iff.mp hname
    exact ⟨c, rest, rfl, isAlpha_of_isLower_toLower ha⟩
  rcases hu with (h | h) | h
  · exact hlower (by decide) h
  · exact hlower (by decide) h
  · exact hlower (by decide) h

theorem head_of_isDecimal (hu : IsDecimal u) :
    ∃ c rest, u = c :: rest ∧ (c.isDigit = true ∨ c = '.') := by
  rcases hu with @⟨ds, x, hds, hne, -⟩ | @⟨ds, fs, x, hds, -, -, -⟩
  · obtain ⟨d, ds, rfl⟩ := List.exists_cons_of_ne_nil hne
    exact ⟨d, ds ++ x, rfl, .inl (hds d List.mem_cons_self)⟩
  · rcases ds with _ | ⟨d, ds⟩
    · exact ⟨'.', fs ++ x, rfl, .inr rfl⟩
    · exact ⟨d, _, rfl, .inl (hds d List.mem_cons_self)⟩

theorem not_namesNan_of_isDecimal (hu : IsDecimal u) : ¬ NamesNan u := by
  intro hnan
  obtain ⟨c, rest, rfl, hc⟩ := head_of_isDecimal hu
  obtain ⟨_, _, hcons, halpha⟩ := head_of_name (.inr hnan)
  obtain ⟨rfl, -⟩ := List.cons.inj hcons
  rcases hc with hdigit | rfl
  · rw [Unicode.isAlpha_iff] at halpha
    rw [Unicode.isDigit_iff] at hdigit
    omega
  · exact absurd halpha (by decide)

theorem not_namesNan_of_namesInfinity (hu : NamesInfinity u) : ¬ NamesNan u := by
  intro hnan
  rw [NamesInfinity, hnan] at hu
  exact absurd hu (by decide)

theorem read?_append (hsign : IsSign negative sign)
    (hu : IsDecimal u ∨ NamesInfinity u ∨ NamesNan u) :
    read? (sign ++ u) = readUnsigned negative u := by
  have hhead : ∀ c ∈ u.head?, c ≠ '-' ∧ c ≠ '+' := by
    rcases hu with hu | hu
    · obtain ⟨c, rest, rfl, hdigit | rfl⟩ := head_of_isDecimal hu
      · simpa using ne_sign_of_isDigit hdigit
      · simp
    · obtain ⟨c, rest, rfl, hc⟩ := head_of_name hu
      rintro _ ⟨⟩
      constructor <;> rintro rfl <;> exact absurd hc (by decide)
  rw [read?_eq, takeSign_append hsign hhead]

/-! ## What is read -/

theorem readUnsigned_of_infinity (h : NamesInfinity u) :
    readUnsigned negative u = some (if negative then negInf else posInf) := if_pos h

theorem readUnsigned_of_nan (h : NamesNan u) : readUnsigned negative u = some nan :=
  (if_neg fun hinf => not_namesNan_of_namesInfinity hinf h).trans (if_pos h)

theorem readUnsigned_of_not (hinf : ¬ NamesInfinity u) (hnan : ¬ NamesNan u) :
    readUnsigned negative u = readDecimal negative u := (if_neg hinf).trans (if_neg hnan)

theorem readUnsigned_eq_nan_iff (negative : Bool) (u : Text) :
    readUnsigned negative u = some nan ↔ NamesNan u := by
  by_cases hinf : NamesInfinity u
  · rw [readUnsigned_of_infinity hinf]
    exact iff_of_false (by cases negative <;> simp) (not_namesNan_of_namesInfinity hinf)
  by_cases hnan : NamesNan u
  · exact iff_of_true (readUnsigned_of_nan hnan) hnan
  · rw [readUnsigned_of_not hinf hnan]
    exact iff_of_false (readDecimal_ne_nan negative u) hnan

theorem readUnsigned_number_iff (negative : Bool) (u : Text) :
    (∃ n, readUnsigned negative u = some n ∧ n ≠ nan) ↔ IsDecimal u ∨ NamesInfinity u := by
  by_cases hinf : NamesInfinity u
  · refine iff_of_true ⟨_, readUnsigned_of_infinity hinf, ?_⟩ (.inr hinf)
    cases negative <;> simp
  by_cases hnan : NamesNan u
  · rw [readUnsigned_of_nan hnan]
    refine iff_of_false (by simp) ?_
    rintro (hdecimal | hinf')
    · exact not_namesNan_of_isDecimal hdecimal hnan
    · exact hinf hinf'
  · rw [readUnsigned_of_not hinf hnan, or_iff_left hinf, ← readDecimal_isSome_iff negative,
      Option.isSome_iff_exists]
    refine exists_congr fun n => and_iff_left_of_imp ?_
    rintro hn rfl
    exact readDecimal_ne_nan negative u hn

/-- The value that is no number is read where its name is written. -/
theorem read?_eq_nan_iff (t : Text) : read? t = some nan ↔ SpellsNan t := by
  constructor
  · intro h
    obtain ⟨sign, hsign, ht⟩ := exists_sign t
    rw [read?_eq, readUnsigned_eq_nan_iff] at h
    exact ⟨_, sign, _, hsign, ht, h⟩
  · rintro ⟨negative, sign, u, hsign, rfl, hu⟩
    rw [read?_append hsign (.inr (.inr hu)), readUnsigned_eq_nan_iff]
    exact hu

/-- Any other value is read where a number is written. -/
theorem read?_number_iff (t : Text) : (∃ n, read? t = some n ∧ n ≠ nan) ↔ SpellsNumber t := by
  constructor
  · intro h
    obtain ⟨sign, hsign, ht⟩ := exists_sign t
    rw [read?_eq, readUnsigned_number_iff] at h
    exact ⟨_, sign, _, hsign, ht, h⟩
  · rintro ⟨negative, sign, u, hsign, rfl, hu⟩
    rw [read?_append hsign (or_assoc.mp (.inl hu)), readUnsigned_number_iff]
    exact hu

instance : DecidablePred SpellsNan := fun t => decidable_of_iff _ (read?_eq_nan_iff t)

instance : DecidablePred SpellsNumber := fun t =>
  decidable_of_iff ((read? t).any (· != nan) = true) <| by
    rw [← read?_number_iff]
    rcases read? t with _ | n <;> simp

example : SpellsNan "-NaN".toList := by decide

example : SpellsNumber "+.5E-3".toList ∧ ¬ SpellsNumber "+.E-3".toList := by decide +kernel

theorem ofText_eq_nan_iff (t : Text) : ofText t = nan ↔ SpellsNan t.trim := by
  rw [← read?_eq_nan_iff, ofText]
  rcases read? t.trim with _ | n <;> simp [zero]

/-- A text that denotes neither a number nor the value that is none counts as zero. -/
theorem ofText_of_not (hnumber : ¬ SpellsNumber t.trim) (hnan : ¬ SpellsNan t.trim) :
    ofText t = zero := by
  have hnone : read? t.trim = none := by
    rcases h : read? t.trim with _ | n
    · rfl
    · by_cases hn : n = nan
      · exact absurd ((read?_eq_nan_iff _).mp (hn ▸ h)) hnan
      · exact absurd ((read?_number_iff _).mp ⟨n, h, hn⟩) hnumber
  rw [ofText, hnone, Option.getD_none]

end Numeral

end TagEdit
