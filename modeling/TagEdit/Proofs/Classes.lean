import TagEdit.Unicode.Letter

/-!
# Classes without common members

The classes of characters are unions of tables. A union covers no more than its parts do, so two
classes share no character if no range of the one's tables meets a range of the other. That is
checked table by table: a blank belongs to no name, and casing does not look past a letter.
-/

namespace TagEdit.Unicode

namespace CharSet

/-- Some of the ranges have a code point. -/
def Within (rs : List (Nat × Nat)) (n : Nat) : Prop := ∃ r ∈ rs, r.1 ≤ n ∧ n ≤ r.2

/-- No code point is in ranges of both sets. -/
def Apart (s t : CharSet) : Prop := ∀ n, Within s.ranges n → ¬ Within t.ranges n

variable {s t u : CharSet} {n : Nat} {rs : List (Nat × Nat)}

theorem within_of_memRanges (h : memRanges n rs = true) : Within rs n := by
  induction rs with
  | nil => cases h
  | cons r rs ih =>
    simp only [memRanges] at h
    split at h
    · cases h
    · rename_i hlo
      split at h
      · rename_i hhi
        exact ⟨r, List.mem_cons_self, by omega, hhi⟩
      · obtain ⟨q, hq, hn⟩ := ih h
        exact ⟨q, List.mem_cons_of_mem _ hq, hn⟩

/-- Joined ranges cover no more than the ranges did: they are joined only where they meet. -/
theorem Within.of_joinRanges (h : Within (joinRanges rs) n) : Within rs n := by
  fun_induction joinRanges rs with
  | case1 => exact h
  | case2 r => exact h
  | case3 r q rest hmeet ih =>
    obtain ⟨p, hp, hn⟩ := ih h
    rcases List.mem_cons.mp hp with rfl | hp
    · rcases Nat.lt_or_ge r.2 n with hr | hr
      · exact ⟨q, by simp, by omega, by omega⟩
      · exact ⟨r, by simp, hn.1, hr⟩
    · exact ⟨p, by simp [hp], hn⟩
  | case4 r q rest _ ih =>
    obtain ⟨p, hp, hn⟩ := h
    rcases List.mem_cons.mp hp with rfl | hp
    · exact ⟨p, List.mem_cons_self, hn⟩
    · obtain ⟨p', hp', hn'⟩ := ih ⟨p, hp, hn⟩
      exact ⟨p', List.mem_cons_of_mem _ hp', hn'⟩

theorem Within.of_ofRanges (h : Within (ofRanges rs).ranges n) : Within rs n := by
  obtain ⟨r, hr, hn⟩ := Within.of_joinRanges h
  exact ⟨r, (List.mergeSort_perm _ _).mem_iff.mp hr, hn⟩

theorem Apart.union (hs : s.Apart u) (ht : t.Apart u) : (s.union t).Apart u := by
  intro n h
  obtain ⟨r, hr, hn⟩ := h.of_ofRanges
  rcases List.mem_append.mp hr with hr | hr
  · exact hs n ⟨r, hr, hn⟩
  · exact ht n ⟨r, hr, hn⟩

theorem Apart.unionAll {ss : List CharSet} (h : ∀ s ∈ ss, s.Apart u) : (unionAll ss).Apart u := by
  intro n hn
  obtain ⟨r, hr, hn⟩ := hn.of_ofRanges
  obtain ⟨s, hs, hr⟩ := List.mem_flatMap.mp hr
  exact h s hs n ⟨r, hr, hn⟩

theorem Apart.not_contains (h : s.Apart u) {c : Char} (hc : u.contains c = true) :
    s.contains c = false := by
  rcases hs : s.contains c with _ | _
  · rfl
  · exact absurd (within_of_memRanges hc) (h _ (within_of_memRanges hs))

/-- Whether no range in the text of a table meets a range of a set. -/
def misses (u : CharSet) (table : List Char) : Bool :=
  ((entries table).flatMap decodeEntry).all fun r =>
    u.ranges.all fun q => Nat.blt r.2 q.1 || Nat.blt q.2 r.1

/-- The table is given by its characters: a kernel is slow to take a text apart. -/
theorem apart_decode {table : List Char} (h : u.misses table = true) :
    (decode (String.ofList table)).Apart u := by
  rintro n hn ⟨q, hq, hqn⟩
  obtain ⟨r, hr, hrn⟩ := hn.of_ofRanges
  rw [String.toList_ofList] at hr
  have hmiss := List.all_eq_true.mp (List.all_eq_true.mp h r hr) q hq
  simp only [Bool.or_eq_true, Nat.blt_eq] at hmiss
  omega

end CharSet

open CharSet Category Property

/-! ## Blanks -/

theorem isDigit_iff (c : Char) : c.isDigit = true ↔ 0x30 ≤ c.toNat ∧ c.toNat ≤ 0x39 := by
  simp [Char.isDigit, UInt32.le_iff_toNat_le]

theorem isAlpha_iff (c : Char) : c.isAlpha = true ↔
    0x41 ≤ c.toNat ∧ c.toNat ≤ 0x5A ∨ 0x61 ≤ c.toNat ∧ c.toNat ≤ 0x7A := by
  have hcases : c.isAlpha = (decide (c.val ≥ 0x41 ∧ c.val ≤ 0x5A) ||
      decide (c.val ≥ 0x61) && decide (c.val ≤ 0x7A)) := rfl
  simp [hcases, UInt32.le_iff_toNat_le]

/-- The blanks below 128 stand in front of all signs. -/
theorem le_or_ge_of_isBlank {c : Char} (h : isBlank c = true) :
    c.toNat ≤ 0x20 ∨ 0x80 ≤ c.toNat := by
  have hmem : memRanges c.toNat whiteSpace.ranges = true := h
  simp only [whiteSpace, memRanges] at hmem
  grind

theorem isDigit_of_isBlank {c : Char} (h : isBlank c = true) : c.isDigit = false := by
  have hn := le_or_ge_of_isBlank h
  rw [Bool.eq_false_iff, ne_eq, isDigit_iff]
  omega

theorem isAlpha_of_isBlank {c : Char} (h : isBlank c = true) : c.isAlpha = false := by
  have hn := le_or_ge_of_isBlank h
  rw [Bool.eq_false_iff, ne_eq, isAlpha_iff]
  omega

set_option maxRecDepth 20000 in
theorem apart_letters : (setOf (letterNumber :: letters)).Apart whiteSpace := by
  refine .unionAll fun s hs => ?_
  simp only [letters, List.map_cons, List.map_nil, List.mem_cons, List.not_mem_nil, or_false] at hs
  rcases hs with rfl | rfl | rfl | rfl | rfl | rfl
  all_goals exact apart_decode (by decide +kernel)

set_option maxRecDepth 20000 in
theorem apart_alphabetic : alphabeticSet.Apart whiteSpace := by
  refine .union (.union apart_letters ?_) ?_
  all_goals exact apart_decode (by decide +kernel)

set_option maxRecDepth 20000 in
theorem apart_numeric : numericSet.Apart whiteSpace := by
  refine .union (.unionAll fun s hs => ?_) (apart_decode (by decide +kernel))
  simp only [numbers, List.map_cons, List.map_nil, List.mem_cons, List.not_mem_nil, or_false] at hs
  rcases hs with rfl | rfl | rfl
  all_goals exact apart_decode (by decide +kernel)

theorem isAlphanumeric_of_isBlank {c : Char} (h : isBlank c = true) : isAlphanumeric c = false := by
  simp only [isAlphanumeric, isAlphabetic, isNumeric, isAlpha_of_isBlank h, isDigit_of_isBlank h,
    apart_alphabetic.not_contains h, apart_numeric.not_contains h, ite_self, Bool.or_self]

/-! ## Letters -/

/-- The letters below 128. -/
def asciiLetters : CharSet := ⟨[(0x41, 0x5A), (0x61, 0x7A)]⟩

theorem contains_asciiLetters {c : Char} (h : c.isAlpha = true) :
    asciiLetters.contains c = true := by
  rw [isAlpha_iff] at h
  simp only [asciiLetters, contains, memCode, memRanges]
  grind

set_option maxRecDepth 20000 in
theorem apart_caseIgnorable : caseIgnorableSet.Apart asciiLetters := by
  refine .union (.union (.unionAll fun s hs => ?_) ?_) ?_
  · simp only [List.map_cons, List.map_nil, List.mem_cons, List.not_mem_nil, or_false] at hs
    rcases hs with rfl | rfl | rfl | rfl | rfl
    all_goals exact apart_decode (by decide +kernel)
  all_goals exact apart_decode (by decide +kernel)

/-- Casing does not look past a letter. -/
theorem isCaseIgnorable_of_isAlpha {c : Char} (h : c.isAlpha = true) : isCaseIgnorable c = false :=
  apart_caseIgnorable.not_contains (contains_asciiLetters h)

end TagEdit.Unicode
