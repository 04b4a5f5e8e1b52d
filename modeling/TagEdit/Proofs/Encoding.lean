import Mathlib.Algebra.Order.Ring.Nat
import Mathlib.Tactic.SplitIfs
import TagEdit.Text.Utf8

/-!
# ASCII in UTF-8

A character below 128 is one byte, and no other bytes are read as such a character.
NUL is left out: it also stands for numbers that are no character.
-/

namespace TagEdit.Utf8

/-- A character that is one byte, which is not zero. -/
def IsAscii (c : Char) : Prop := 0 < c.toNat ∧ c.toNat < 128

instance (c : Char) : Decidable (IsAscii c) := inferInstanceAs (Decidable (_ ∧ _))

/-- The byte of a character. -/
def byte (c : Char) : UInt8 := UInt8.ofNat c.toNat

theorem toNat_byte {c : Char} (h : IsAscii c) : (byte c).toNat = c.toNat := by
  unfold IsAscii at h
  rw [byte, UInt8.toNat_ofNat']
  omega

theorem byte_inj {c d : Char} (hc : IsAscii c) (hd : IsAscii d) (h : byte c = byte d) : c = d := by
  have hnat : c.toNat = d.toNat := by rw [← toNat_byte hc, ← toNat_byte hd, h]
  exact Char.toNat_inj.mp hnat

theorem encode_cons {c : Char} (h : IsAscii c) (t : Text) :
    encode (c :: t) = byte c :: encode t := by
  have hle : c.val.toNat ≤ 0x7f := Nat.le_of_lt_succ h.2
  have hchar : String.utf8EncodeChar c = [byte c] := if_pos hle
  rw [encode, List.flatMap_cons, hchar]
  rfl

theorem readPiece_byte {c : Char} (h : IsAscii c) (bs : Bytes) :
    readPiece (byte c) bs = (some c, bs) := by
  have hlead : lead? (byte c).toNat = some ⟨c.toNat, 0, 0x80, 0xBF⟩ := by
    rw [toNat_byte h]
    exact if_pos h.2
  rw [readPiece, hlead]
  simp [readTails]

/-- The bytes behind a first one only add to what it announced. -/
theorem readTails_le {k lo hi n m : Nat} {bs rest : Bytes}
    (h : readTails k lo hi n bs = (some m, rest)) : n * 64 ^ k ≤ m := by
  fun_induction readTails k lo hi n bs with
  | case1 lo hi n bs =>
    cases h
    simp
  | case2 => cases h
  | case3 k lo hi n b bs hb ih =>
    refine Nat.le_trans ?_ (ih h)
    rw [Nat.pow_succ, Nat.mul_comm (64 ^ k), ← Nat.mul_assoc]
    exact Nat.mul_le_mul_right _ (Nat.le_add_right _ _)
  | case4 => cases h

/-- A first byte is a character of its own, or announces one that is at least 128. -/
theorem lead?_cases {b : Nat} {l : Lead} (h : lead? b = some l) :
    (b < 128 ∧ l = ⟨b, 0, 0x80, 0xBF⟩) ∨
      ∃ k, l.tails = k + 1 ∧ 128 ≤ (l.payload * 64 + (l.low - 0x80)) * 64 ^ k := by
  unfold lead? at h
  split_ifs at h with h80 hC2 hE0 hE0' hED hF0 hF0' hF4 hF4' <;>
    simp only [Option.some.injEq] at h <;> subst h
  · exact .inl ⟨h80, rfl⟩
  all_goals exact .inr ⟨_, rfl, by dsimp only; omega⟩

theorem ofNat_toNat {c : Char} {n : Nat} (hc : 0 < c.toNat) (h : Char.ofNat n = c) :
    c.toNat = n := by
  subst h
  by_cases hn : n.isValidChar
  · rw [Char.ofNat, dif_pos hn]
    rfl
  · exact absurd hc (by simp [Char.ofNat, hn])

/-- Only its own byte is read as a character that is one byte. -/
theorem eq_byte_of_readPiece {c : Char} (h : IsAscii c) {b : UInt8} {bs rest : Bytes}
    (hread : readPiece b bs = (some c, rest)) : b = byte c ∧ rest = bs := by
  unfold readPiece at hread
  split at hread
  · cases hread
  · rename_i l hlead
    obtain ⟨hchar, hrest⟩ := Prod.mk.inj hread
    obtain ⟨n, hn, hchar⟩ := Option.map_eq_some_iff.mp hchar
    have hcn : c.toNat = n := ofNat_toNat h.1 hchar
    have htails : readTails l.tails l.low l.high l.payload bs = (some n, rest) := Prod.ext hn hrest
    rcases lead?_cases hlead with ⟨hb, rfl⟩ | ⟨k, hk, hlarge⟩
    · obtain ⟨hbn, hbs⟩ := Prod.mk.inj htails
      refine ⟨UInt8.toNat_inj.mp ?_, hbs.symm⟩
      rw [toNat_byte h, hcn]
      exact Option.some.inj hbn
    · rw [hk] at htails
      cases bs with
      | nil => cases htails
      | cons b' bs =>
        rw [readTails] at htails
        split_ifs at htails with hb'
        · have hle := readTails_le htails
          have hmono : (l.payload * 64 + (l.low - 0x80)) * 64 ^ k ≤
              (l.payload * 64 + (b'.toNat - 0x80)) * 64 ^ k :=
            Nat.mul_le_mul_right _ (by omega)
          have hsmall := h.2
          omega
        · cases htails

/-! ## Texts -/

theorem encode_eq_map {t : Text} (h : ∀ c ∈ t, IsAscii c) : encode t = t.map byte := by
  induction t with
  | nil => rfl
  | cons c t ih =>
    rw [encode_cons (h c List.mem_cons_self), ih fun d hd => h d (List.mem_cons_of_mem _ hd)]
    rfl

@[simp] theorem decode?_nil : decode? [] = some [] := by
  rw [decode?, pieces]
  rfl

theorem decode?_cons (b : UInt8) (bs : Bytes) :
    decode? (b :: bs) =
      (readPiece b bs).1.bind fun c => (decode? (readPiece b bs).2).map (c :: ·) := by
  rw [decode?, pieces, List.mapM_cons]
  rw [decode?]
  cases (readPiece b bs).1 with
  | none => rfl
  | some c => cases (pieces (readPiece b bs).2).mapM id <;> rfl

theorem decode?_encode {t : Text} (h : ∀ c ∈ t, IsAscii c) : decode? (encode t) = some t := by
  induction t with
  | nil => exact decode?_nil
  | cons c t ih =>
    have hc := h c List.mem_cons_self
    rw [encode_cons hc, decode?_cons, readPiece_byte hc]
    rw [ih fun d hd => h d (List.mem_cons_of_mem _ hd)]
    rfl

/-- Only its own bytes are read as a text of ASCII. -/
theorem eq_encode_of_decode? {bs : Bytes} {t : Text} (h : ∀ c ∈ t, IsAscii c)
    (hread : decode? bs = some t) : bs = encode t := by
  induction t generalizing bs with
  | nil =>
    cases bs with
    | nil => rfl
    | cons b bs =>
      rw [decode?_cons] at hread
      obtain ⟨c, -, hread⟩ := Option.bind_eq_some_iff.mp hread
      obtain ⟨t, -, ht⟩ := Option.map_eq_some_iff.mp hread
      cases ht
  | cons c t ih =>
    cases bs with
    | nil =>
      rw [decode?_nil] at hread
      cases hread
    | cons b bs =>
      rw [decode?_cons] at hread
      obtain ⟨d, hd, hread⟩ := Option.bind_eq_some_iff.mp hread
      obtain ⟨u, hu, ht⟩ := Option.map_eq_some_iff.mp hread
      cases ht
      have hc := h c List.mem_cons_self
      obtain ⟨hb, hrest⟩ := eq_byte_of_readPiece hc (Prod.ext hd rfl)
      have hbs : bs = encode t := hrest ▸ ih (fun d hd => h d (List.mem_cons_of_mem _ hd)) hu
      rw [encode_cons hc, hb, hbs]

end TagEdit.Utf8
