import Mathlib.Tactic.IntervalCases
import TagEdit.Proofs.Encoding

/-!
# Texts read back from UTF-8

A first byte determines how many bytes follow and bounds the next one. The bounds leave out the
numbers that fewer bytes could hold and those that are no characters, so that bytes are read as a
text exactly if they are the bytes of that text.
-/

namespace TagEdit.Utf8

/-! ## Numbers and characters -/

theorem toNat_ofNat {n : Nat} (h : n.isValidChar) : (Char.ofNat n).toNat = n := by
  rw [Char.ofNat, dif_pos h]
  rfl

/-- The bits of a byte that is not the first one of its character. -/
def tail (n : Nat) : UInt8 := UInt8.ofNat (n % 64 + 128)

theorem toNat_tail (n : Nat) : (tail n).toNat = 128 + n % 64 := by
  rw [tail, UInt8.toNat_ofNat']
  omega

theorem eq_tail {b : UInt8} {n : Nat} (h : 128 ≤ b.toNat) (hn : b.toNat - 128 = n % 64) :
    b = tail n := by
  refine UInt8.toNat_inj.mp ?_
  rw [toNat_tail]
  omega

theorem eq_ofNat {b : UInt8} {n : Nat} (h : b.toNat = n) : b = UInt8.ofNat n := by
  rw [← h, UInt8.ofNat_toNat]

section

variable {c : Char}

theorem encodeChar_one (h : c.toNat < 0x80) :
    String.utf8EncodeChar c = [UInt8.ofNat c.toNat] := if_pos (Nat.le_of_lt_succ h)

theorem encodeChar_two (h : 0x80 ≤ c.toNat) (h' : c.toNat < 0x800) :
    String.utf8EncodeChar c = [UInt8.ofNat (0xC0 + c.toNat / 64), tail c.toNat] := by
  have hlead : c.toNat / 64 % 32 + 192 = 0xC0 + c.toNat / 64 := by omega
  rw [← hlead]
  exact (if_neg (by exact Nat.not_le.mpr h)).trans (if_pos (Nat.le_of_lt_succ h'))

theorem encodeChar_three (h : 0x800 ≤ c.toNat) (h' : c.toNat < 0x10000) :
    String.utf8EncodeChar c =
      [UInt8.ofNat (0xE0 + c.toNat / 4096), tail (c.toNat / 64), tail c.toNat] := by
  have hlead : c.toNat / 4096 % 16 + 224 = 0xE0 + c.toNat / 4096 := by omega
  have hone : ¬ c.toNat ≤ 0x7F := by omega
  rw [← hlead]
  exact (if_neg hone).trans <| (if_neg (Nat.not_le.mpr h)).trans (if_pos (Nat.le_of_lt_succ h'))

theorem encodeChar_four (h : 0x10000 ≤ c.toNat) :
    String.utf8EncodeChar c = [UInt8.ofNat (0xF0 + c.toNat / 262144), tail (c.toNat / 4096),
      tail (c.toNat / 64), tail c.toNat] := by
  have hvalid : c.toNat < 0xD800 ∨ 0xDFFF < c.toNat ∧ c.toNat < 0x110000 := c.valid
  have hlead : c.toNat / 262144 % 8 + 240 = 0xF0 + c.toNat / 262144 := by omega
  have hone : ¬ c.toNat ≤ 0x7F := by omega
  have htwo : ¬ c.toNat ≤ 0x7FF := by omega
  rw [← hlead]
  exact (if_neg hone).trans <| (if_neg htwo).trans (if_neg (Nat.not_le.mpr h))

end

/-! ## First bytes -/

section

variable {q : Nat}

theorem lead?_two (h : 2 ≤ q) (h' : q < 32) : lead? (0xC0 + q) = some ⟨q, 1, 0x80, 0xBF⟩ := by
  rw [lead?, if_neg (by omega), if_neg (by omega), if_pos (by omega), Nat.add_sub_cancel_left]

theorem lead?_three (h : q < 16) :
    lead? (0xE0 + q) =
      some ⟨q, 2, if q = 0 then 0xA0 else 0x80, if q = 0xD then 0x9F else 0xBF⟩ := by
  interval_cases q <;> rfl

theorem lead?_four (h : q < 5) :
    lead? (0xF0 + q) =
      some ⟨q, 3, if q = 0 then 0x90 else 0x80, if q = 4 then 0x8F else 0xBF⟩ := by
  interval_cases q <;> rfl

/-- Every other byte is a character of its own, or cannot be a first byte. -/
theorem lead?_inv {b : Nat} {l : Lead} (h : lead? b = some l) :
    (b < 0x80 ∧ l = ⟨b, 0, 0x80, 0xBF⟩) ∨ (∃ q, b = 0xC0 + q ∧ 2 ≤ q ∧ q < 32) ∨
      (∃ q, b = 0xE0 + q ∧ q < 16) ∨ ∃ q, b = 0xF0 + q ∧ q < 5 := by
  by_cases hone : b < 0x80
  · rw [lead?, if_pos hone] at h
    exact .inl ⟨hone, (Option.some.inj h).symm⟩
  · have hlow : ¬ b < 0xC2 := by
      intro hlow
      rw [lead?, if_neg hone, if_pos hlow] at h
      cases h
    have hhigh : b < 0xF5 := by
      refine Nat.not_le.mp fun hhigh => ?_
      unfold lead? at h
      split_ifs at h <;> omega
    by_cases htwo : b < 0xE0
    · exact .inr (.inl ⟨b - 0xC0, by omega, by omega, by omega⟩)
    by_cases hthree : b < 0xF0
    · exact .inr (.inr (.inl ⟨b - 0xE0, by omega, by omega⟩))
    · exact .inr (.inr (.inr ⟨b - 0xF0, by omega, by omega⟩))

end

/-! ## Characters -/

section

variable {k lo hi n m : Nat} {b : UInt8} {bs rest : Bytes}

theorem readTails_tail (h : lo ≤ 128 + m % 64) (h' : 128 + m % 64 ≤ hi) :
    readTails (k + 1) lo hi n (tail m :: bs) =
      readTails k 0x80 0xBF (n * 64 + m % 64) bs := by
  rw [readTails, toNat_tail, if_pos ⟨h, h'⟩, Nat.add_sub_cancel_left]

theorem readTails_inv (h : readTails (k + 1) lo hi n bs = (some m, rest)) :
    ∃ b bs', bs = b :: bs' ∧ lo ≤ b.toNat ∧ b.toNat ≤ hi ∧
      readTails k 0x80 0xBF (n * 64 + (b.toNat - 128)) bs' = (some m, rest) := by
  cases bs with
  | nil => cases h
  | cons b bs =>
    rw [readTails] at h
    split_ifs at h with hb
    · exact ⟨b, bs, rfl, hb.1, hb.2, h⟩
    · cases h

theorem readPiece_of_lead? {l : Lead} (h : lead? b.toNat = some l)
    (htails : readTails l.tails l.low l.high l.payload bs = (some m, rest)) :
    readPiece b bs = (some (Char.ofNat m), rest) := by
  rw [readPiece, h]
  simp only [htails, Option.map_some]

theorem toNat_first {n : Nat} (h : n < 256) : (UInt8.ofNat n).toNat = n := by
  rw [UInt8.toNat_ofNat', Nat.mod_eq_of_lt h]

theorem readPiece_one (h : m < 0x80) (rest : Bytes) :
    readPiece (UInt8.ofNat m) rest = (some (Char.ofNat m), rest) := by
  have hlead : lead? (UInt8.ofNat m).toNat = some ⟨m, 0, 0x80, 0xBF⟩ := by
    rw [toNat_first (by omega)]
    exact if_pos h
  exact readPiece_of_lead? hlead rfl

theorem readPiece_two (h : 0x80 ≤ m) (h' : m < 0x800) (rest : Bytes) :
    readPiece (UInt8.ofNat (0xC0 + m / 64)) (tail m :: rest) = (some (Char.ofNat m), rest) := by
  have hlead := lead?_two (q := m / 64) (by omega) (by omega)
  rw [← toNat_first (n := 0xC0 + m / 64) (by omega)] at hlead
  refine readPiece_of_lead? hlead ?_
  dsimp only
  rw [readTails_tail (by omega) (by omega), Nat.div_add_mod']
  rfl

theorem readPiece_three (h : 0x800 ≤ m) (h' : m < 0xD800 ∨ 0xDFFF < m ∧ m < 0x10000)
    (rest : Bytes) :
    readPiece (UInt8.ofNat (0xE0 + m / 4096)) (tail (m / 64) :: tail m :: rest) =
      (some (Char.ofNat m), rest) := by
  have hlead := lead?_three (q := m / 4096) (by omega)
  rw [← toNat_first (n := 0xE0 + m / 4096) (by omega)] at hlead
  refine readPiece_of_lead? hlead ?_
  dsimp only
  rw [readTails_tail (by split <;> omega) (by split <;> omega),
    readTails_tail (by omega) (by omega)]
  exact congrArg (some ·, rest) (by omega)

theorem readPiece_four (h : 0x10000 ≤ m) (h' : m < 0x110000) (rest : Bytes) :
    readPiece (UInt8.ofNat (0xF0 + m / 262144))
      (tail (m / 4096) :: tail (m / 64) :: tail m :: rest) = (some (Char.ofNat m), rest) := by
  have hlead := lead?_four (q := m / 262144) (by omega)
  rw [← toNat_first (n := 0xF0 + m / 262144) (by omega)] at hlead
  refine readPiece_of_lead? hlead ?_
  dsimp only
  rw [readTails_tail (by split <;> omega) (by split <;> omega),
    readTails_tail (by omega) (by omega), readTails_tail (by omega) (by omega)]
  exact congrArg (some ·, rest) (by omega)

/-- The bytes of a character are read as that character. -/
theorem readPiece_encodeChar (c : Char) (rest : Bytes) :
    ∃ b bs, String.utf8EncodeChar c = b :: bs ∧ readPiece b (bs ++ rest) = (some c, rest) := by
  have hvalid : c.toNat < 0xD800 ∨ 0xDFFF < c.toNat ∧ c.toNat < 0x110000 := c.valid
  by_cases hone : c.toNat < 0x80
  · have hread := readPiece_one hone rest
    rw [Char.ofNat_toNat] at hread
    exact ⟨_, _, encodeChar_one hone, hread⟩
  by_cases htwo : c.toNat < 0x800
  · have hread := readPiece_two (Nat.not_lt.mp hone) htwo rest
    rw [Char.ofNat_toNat] at hread
    exact ⟨_, _, encodeChar_two (Nat.not_lt.mp hone) htwo, hread⟩
  by_cases hthree : c.toNat < 0x10000
  · have hread := readPiece_three (Nat.not_lt.mp htwo) (by omega) rest
    rw [Char.ofNat_toNat] at hread
    exact ⟨_, _, encodeChar_three (Nat.not_lt.mp htwo) hthree, hread⟩
  · have hread := readPiece_four (Nat.not_lt.mp hthree) (by omega) rest
    rw [Char.ofNat_toNat] at hread
    exact ⟨_, _, encodeChar_four (Nat.not_lt.mp hthree), hread⟩

/-- Bytes behind a first one that announces one byte, two or three of them are those of the
character that they denote. -/
theorem eq_encodeChar_two {q : Nat} (hb : b.toNat = 0xC0 + q) (hq : 2 ≤ q ∧ q < 32)
    (h : readTails 1 0x80 0xBF q bs = (some m, rest)) :
    b :: bs = String.utf8EncodeChar (Char.ofNat m) ++ rest := by
  obtain ⟨b₁, _, rfl, hlo, hhi, h⟩ := readTails_inv h
  obtain ⟨hm, rfl⟩ := Prod.mk.inj h
  have hm : q * 64 + (b₁.toNat - 128) = m := Option.some.inj hm
  have hchar := toNat_ofNat (n := m) (.inl (by omega))
  rw [encodeChar_two (by omega) (by omega), hchar,
    eq_ofNat (b := b) (n := 0xC0 + m / 64) (by omega), eq_tail (b := b₁) (n := m) hlo (by omega)]
  rfl

theorem eq_encodeChar_three {q : Nat} (hb : b.toNat = 0xE0 + q) (hq : q < 16)
    (h : readTails 2 (if q = 0 then 0xA0 else 0x80) (if q = 0xD then 0x9F else 0xBF) q bs =
      (some m, rest)) : b :: bs = String.utf8EncodeChar (Char.ofNat m) ++ rest := by
  obtain ⟨b₁, _, rfl, hlo, hhi, h⟩ := readTails_inv h
  obtain ⟨b₂, _, rfl, hlo₂, hhi₂, h⟩ := readTails_inv h
  obtain ⟨hm, rfl⟩ := Prod.mk.inj h
  have hm : (q * 64 + (b₁.toNat - 128)) * 64 + (b₂.toNat - 128) = m := Option.some.inj hm
  have hlo : 128 ≤ b₁.toNat ∧ (q = 0 → 0xA0 ≤ b₁.toNat) := by split at hlo <;> omega
  have hhi : b₁.toNat ≤ 0xBF ∧ (q = 0xD → b₁.toNat ≤ 0x9F) := by split at hhi <;> omega
  have hvalid : m < 0xD800 ∨ 0xDFFF < m ∧ m < 0x110000 := by omega
  have hchar := toNat_ofNat hvalid
  rw [encodeChar_three (by omega) (by omega), hchar,
    eq_ofNat (b := b) (n := 0xE0 + m / 4096) (by omega),
    eq_tail (b := b₁) (n := m / 64) hlo.1 (by omega), eq_tail (b := b₂) (n := m) hlo₂ (by omega)]
  rfl

theorem eq_encodeChar_four {q : Nat} (hb : b.toNat = 0xF0 + q) (hq : q < 5)
    (h : readTails 3 (if q = 0 then 0x90 else 0x80) (if q = 4 then 0x8F else 0xBF) q bs =
      (some m, rest)) : b :: bs = String.utf8EncodeChar (Char.ofNat m) ++ rest := by
  obtain ⟨b₁, _, rfl, hlo, hhi, h⟩ := readTails_inv h
  obtain ⟨b₂, _, rfl, hlo₂, hhi₂, h⟩ := readTails_inv h
  obtain ⟨b₃, _, rfl, hlo₃, hhi₃, h⟩ := readTails_inv h
  obtain ⟨hm, rfl⟩ := Prod.mk.inj h
  have hm : ((q * 64 + (b₁.toNat - 128)) * 64 + (b₂.toNat - 128)) * 64 + (b₃.toNat - 128) = m :=
    Option.some.inj hm
  have hlo : 128 ≤ b₁.toNat ∧ (q = 0 → 0x90 ≤ b₁.toNat) := by split at hlo <;> omega
  have hhi : b₁.toNat ≤ 0xBF ∧ (q = 4 → b₁.toNat ≤ 0x8F) := by split at hhi <;> omega
  have hchar := toNat_ofNat (n := m) (.inr (by omega))
  rw [encodeChar_four (by omega), hchar, eq_ofNat (b := b) (n := 0xF0 + m / 262144) (by omega),
    eq_tail (b := b₁) (n := m / 4096) hlo.1 (by omega),
    eq_tail (b := b₂) (n := m / 64) hlo₂ (by omega), eq_tail (b := b₃) (n := m) hlo₃ (by omega)]
  rfl

/-- Only the bytes of a character are read as that character. -/
theorem eq_encodeChar_of_readPiece {c : Char} (h : readPiece b bs = (some c, rest)) :
    b :: bs = String.utf8EncodeChar c ++ rest := by
  unfold readPiece at h
  split at h
  · cases h
  rename_i l hlead
  obtain ⟨hchar, hrest⟩ := Prod.mk.inj h
  obtain ⟨m, hm, rfl⟩ := Option.map_eq_some_iff.mp hchar
  have htails : readTails l.tails l.low l.high l.payload bs = (some m, rest) := Prod.ext hm hrest
  rcases lead?_inv hlead with ⟨hb, rfl⟩ | ⟨q, hb, hq⟩ | ⟨q, hb, hq⟩ | ⟨q, hb, hq⟩
  · obtain ⟨hbm, rfl⟩ := Prod.mk.inj htails
    have hbm : b.toNat = m := Option.some.inj hbm
    have hchar := toNat_ofNat (n := m) (.inl (by omega))
    rw [encodeChar_one (by omega), hchar, eq_ofNat hbm]
    rfl
  · rw [hb, lead?_two hq.1 hq.2] at hlead
    cases hlead
    exact eq_encodeChar_two hb hq htails
  · rw [hb, lead?_three hq] at hlead
    cases hlead
    exact eq_encodeChar_three hb hq htails
  · rw [hb, lead?_four hq] at hlead
    cases hlead
    exact eq_encodeChar_four hb hq htails

end

/-! ## Texts -/

/-- The first character of a text is read from its bytes. -/
theorem exists_encode_cons (c : Char) (t : Text) :
    ∃ b bs, encode (c :: t) = b :: bs ∧ readPiece b bs = (some c, encode t) := by
  obtain ⟨b, bs, hc, hread⟩ := readPiece_encodeChar c (encode t)
  refine ⟨b, bs ++ encode t, ?_, hread⟩
  rw [encode, List.flatMap_cons, hc]
  rfl

theorem decode?_encode_text (t : Text) : decode? (encode t) = some t := by
  induction t with
  | nil => exact decode?_nil
  | cons c t ih =>
    obtain ⟨b, bs, hcons, hread⟩ := exists_encode_cons c t
    rw [hcons, decode?_cons, hread]
    show Option.map (c :: ·) (decode? (encode t)) = _
    rw [ih]
    rfl

theorem decodeLossy_encode (t : Text) : decodeLossy (encode t) = t := by
  induction t with
  | nil => rw [encode_nil, decodeLossy, pieces, List.map_nil]
  | cons c t ih =>
    obtain ⟨b, bs, hcons, hread⟩ := exists_encode_cons c t
    rw [hcons, decodeLossy, pieces, hread, List.map_cons]
    exact congrArg (c :: ·) ih

theorem encode_of_decode? {bs : Bytes} {t : Text} (h : decode? bs = some t) : encode t = bs := by
  induction t generalizing bs with
  | nil => exact (eq_encode_of_decode? (List.forall_mem_nil _) h).symm
  | cons c t ih =>
    cases bs with
    | nil =>
      rw [decode?_nil] at h
      cases h
    | cons b bs =>
      rw [decode?_cons] at h
      obtain ⟨d, hd, h⟩ := Option.bind_eq_some_iff.mp h
      obtain ⟨u, hu, ht⟩ := Option.map_eq_some_iff.mp h
      cases ht
      have hchar : readPiece b bs = (some c, (readPiece b bs).2) := Prod.ext hd rfl
      rw [eq_encodeChar_of_readPiece hchar, ← ih hu]
      rfl

/-- A byte zero is the character NUL. -/
theorem zero_mem_encodeChar {c : Char} : 0 ∈ String.utf8EncodeChar c ↔ c = '\x00' := by
  have hvalid : c.toNat < 0xD800 ∨ 0xDFFF < c.toNat ∧ c.toNat < 0x110000 := c.valid
  have htail : ∀ n, (0 : UInt8) ≠ tail n := fun n h => by
    have := congrArg UInt8.toNat h
    rw [toNat_tail, UInt8.toNat_zero] at this
    omega
  have hfirst : ∀ n, 0 < n → n < 256 → (0 : UInt8) ≠ UInt8.ofNat n := fun n hn hn' h => by
    have := congrArg UInt8.toNat h
    rw [toNat_first hn', UInt8.toNat_zero] at this
    omega
  refine ⟨fun h => ?_, fun h => h ▸ by decide⟩
  by_cases hone : c.toNat < 0x80
  · rw [encodeChar_one hone, List.mem_singleton] at h
    refine Char.toNat_inj.mp (Nat.eq_zero_of_not_pos fun hpos => ?_)
    exact hfirst _ hpos (by omega) h
  by_cases htwo : c.toNat < 0x800
  · rw [encodeChar_two (Nat.not_lt.mp hone) htwo] at h
    simp only [List.mem_cons, htail, hfirst (0xC0 + c.toNat / 64) (by omega) (by omega),
      List.not_mem_nil, or_self] at h
  by_cases hthree : c.toNat < 0x10000
  · rw [encodeChar_three (Nat.not_lt.mp htwo) hthree] at h
    simp only [List.mem_cons, htail, hfirst (0xE0 + c.toNat / 4096) (by omega) (by omega),
      List.not_mem_nil, or_self] at h
  · rw [encodeChar_four (Nat.not_lt.mp hthree)] at h
    simp only [List.mem_cons, htail, hfirst (0xF0 + c.toNat / 262144) (by omega) (by omega),
      List.not_mem_nil, or_self] at h

theorem zero_mem_encode {t : Text} : 0 ∈ encode t ↔ '\x00' ∈ t := by
  simp only [encode, List.mem_flatMap, zero_mem_encodeChar, exists_eq_right]

end TagEdit.Utf8
