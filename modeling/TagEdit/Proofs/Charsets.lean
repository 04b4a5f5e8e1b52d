import Mathlib.Data.List.Induction
import Mathlib.Tactic.SplitIfs
import TagEdit.Id3.Charset
import TagEdit.Proofs.Utf8

/-!
# Texts read back from their character sets

A text that a character set has reads back from its bytes, also if it is cut off at the first
terminator, as long as it has no NUL in it. Without the terminators at the end of its bytes, it
reads back up to the characters NUL at its own end.
-/

namespace TagEdit.Id3.Charset

/-- Whether a character set has all characters of a text. -/
def Has (cs : Charset) (t : Text) : Prop := cs = latin1 → ∀ c ∈ t, c.toNat < 256

theorem eq_zero_iff {b : UInt8} : b = 0 ↔ b.toNat = 0 := by
  rw [← UInt8.toNat_inj, UInt8.toNat_zero]

/-! ## Two-byte units -/

/-- The bytes of a unit. -/
def pair (highFirst : Bool) (u : Nat) : Bytes :=
  if highFirst then (unitBytes u).reverse else unitBytes u

theorem pair_eq (highFirst : Bool) (u : Nat) :
    ∃ a b, pair highFirst u = [a, b] ∧ (u < 0x10000 →
      (if highFirst then a.toNat * 256 + b.toNat else b.toNat * 256 + a.toNat) = u ∧
        (a = 0 ∧ b = 0 ↔ u = 0)) := by
  have hlow : (UInt8.ofNat (u % 256)).toNat = u % 256 := by
    rw [UInt8.toNat_ofNat']
    omega
  have hhigh : u < 0x10000 → (UInt8.ofNat (u / 256)).toNat = u / 256 := fun hu => by
    rw [UInt8.toNat_ofNat']
    omega
  cases highFirst
  · refine ⟨_, _, rfl, fun hu => ?_⟩
    simp only [eq_zero_iff, hlow, hhigh hu, Bool.false_eq_true, if_false]
    omega
  · refine ⟨_, _, rfl, fun hu => ?_⟩
    simp only [eq_zero_iff, hlow, hhigh hu, if_true]
    omega

theorem flatMap_pair_cons (highFirst : Bool) (u : Nat) :
    ∃ a b, (u < 0x10000 → (a = 0 ∧ b = 0 ↔ u = 0)) ∧ ∀ us : List Nat,
      (u :: us).flatMap (pair highFirst) = a :: b :: us.flatMap (pair highFirst) := by
  obtain ⟨a, b, hpair, hu⟩ := pair_eq highFirst u
  refine ⟨a, b, fun h => (hu h).2, fun us => ?_⟩
  rw [List.flatMap_cons, hpair]
  rfl

theorem units_flatMap_pair {highFirst : Bool} {us : List Nat} (h : ∀ u ∈ us, u < 0x10000) :
    units highFirst (us.flatMap (pair highFirst)) = us := by
  induction us with
  | nil => rfl
  | cons u us ih =>
    obtain ⟨a, b, hpair, hu⟩ := pair_eq highFirst u
    rw [List.flatMap_cons, hpair]
    show (if highFirst then _ else _) :: units highFirst (us.flatMap (pair highFirst)) = _
    rw [(hu (h u List.mem_cons_self)).1, ih fun v hv => h v (List.mem_cons_of_mem _ hv)]

theorem units_lt (highFirst : Bool) (bs : Bytes) : ∀ u ∈ units highFirst bs, u < 0x10000 := by
  fun_induction units highFirst bs with
  | case1 a b rest ih =>
    have ha := a.toNat_lt
    have hb := b.toNat_lt
    refine List.forall_mem_cons.mpr ⟨?_, ih⟩
    split <;> omega
  | case2 => exact List.forall_mem_nil _

theorem toUnits_lt (c : Char) : ∀ u ∈ toUnits c, u < 0x10000 := by
  have hvalid : c.toNat < 0xD800 ∨ 0xDFFF < c.toNat ∧ c.toNat < 0x110000 := c.valid
  unfold toUnits
  dsimp only
  split <;> simp only [List.mem_cons, List.not_mem_nil, or_false, forall_eq_or_imp, forall_eq] <;>
    omega

theorem zero_mem_toUnits (c : Char) : 0 ∈ toUnits c ↔ c = '\x00' := by
  rw [← Char.toNat_inj]
  unfold toUnits
  dsimp only
  split <;> simp only [List.mem_cons, List.not_mem_nil, or_false]
  · exact eq_comm
  · have hzero : '\x00'.toNat = 0 := rfl
    omega

theorem zero_mem_flatMap_toUnits (t : Text) : 0 ∈ t.flatMap toUnits ↔ '\x00' ∈ t := by
  simp only [List.mem_flatMap, zero_mem_toUnits, exists_eq_right]

theorem flatMap_toUnits_lt (t : Text) : ∀ u ∈ t.flatMap toUnits, u < 0x10000 := by
  intro u hu
  obtain ⟨c, -, hu⟩ := List.mem_flatMap.mp hu
  exact toUnits_lt c u hu

/-! ## Halves of characters -/

theorem ofUnits?_cons {u : Nat} (h : ¬ (0xD800 ≤ u ∧ u < 0xE000)) (us : List Nat) :
    ofUnits? (u :: us) = (ofUnits? us).map (Char.ofNat u :: ·) := by
  cases us with
  | nil => exact if_neg h
  | cons v us => rw [ofUnits?, if_neg h]

theorem ofUnits?_toUnits (c : Char) (us : List Nat) :
    ofUnits? (toUnits c ++ us) = (ofUnits? us).map (c :: ·) := by
  have hvalid : c.toNat < 0xD800 ∨ 0xDFFF < c.toNat ∧ c.toNat < 0x110000 := c.valid
  unfold toUnits
  dsimp only
  split
  · rw [List.singleton_append, ofUnits?_cons (by omega), Char.ofNat_toNat]
  · have hchar : 0x10000 + (0xD800 + (c.toNat - 0x10000) / 0x400 - 0xD800) * 0x400 +
        (0xDC00 + (c.toNat - 0x10000) % 0x400 - 0xDC00) = c.toNat := by omega
    rw [List.cons_append, List.singleton_append, ofUnits?, if_pos (by omega), if_pos (by omega),
      hchar, Char.ofNat_toNat]

theorem ofUnits?_flatMap_toUnits (t : Text) : ofUnits? (t.flatMap toUnits) = some t := by
  induction t with
  | nil => rfl
  | cons c t ih => rw [List.flatMap_cons, ofUnits?_toUnits, ih]; rfl

/-- Only its own units are read as a text. -/
theorem flatMap_toUnits_of_ofUnits? {us : List Nat} {t : Text} (h : ofUnits? us = some t)
    (hlt : ∀ u ∈ us, u < 0x10000) : t.flatMap toUnits = us := by
  have hone : ∀ u, u < 0x10000 → ¬ (0xD800 ≤ u ∧ u < 0xE000) → toUnits (Char.ofNat u) = [u] := by
    intro u hu hhalf
    have hvalid : u < 0xD800 ∨ 0xDFFF < u ∧ u < 0x110000 := by omega
    rw [toUnits, Utf8.toNat_ofNat hvalid, if_pos hu]
  fun_induction ofUnits? us generalizing t with
  | case1 => cases h; rfl
  | case2 => cases h
  | case3 u hhalf =>
    cases h
    rw [List.flatMap_singleton, hone u (hlt u List.mem_cons_self) hhalf]
  | case4 u v rest hhalf hpair ih =>
    obtain ⟨t, ht, rfl⟩ := Option.map_eq_some_iff.mp h
    have hrest := ih ht fun w hw => hlt w (List.mem_cons_of_mem _ (List.mem_cons_of_mem _ hw))
    have hvalid : (0x10000 + (u - 0xD800) * 0x400 + (v - 0xDC00)).isValidChar :=
      .inr (by omega)
    rw [List.flatMap_cons, hrest, toUnits, Utf8.toNat_ofNat hvalid, if_neg (by omega)]
    exact congrArg₂ (· :: · :: rest) (by omega) (by omega)
  | case5 => cases h
  | case6 u v rest hhalf ih =>
    obtain ⟨t, ht, rfl⟩ := Option.map_eq_some_iff.mp h
    rw [List.flatMap_cons, hone u (hlt u List.mem_cons_self) hhalf,
      ih ht fun w hw => hlt w (List.mem_cons_of_mem _ hw)]
    rfl

/-! ## Reading what was written -/

theorem encode_utf16 (t : Text) :
    encode utf16 t = (0xFEFF :: t.flatMap toUnits).flatMap (pair false) := rfl

theorem encode_utf16be (t : Text) :
    encode utf16be t = (t.flatMap toUnits).flatMap (pair true) := rfl

theorem decode?_latin1 (bs : Bytes) :
    decode? latin1 bs = some (bs.map fun b => Char.ofNat b.toNat) := by
  cases bs <;> rfl

theorem decode?_utf8 (bs : Bytes) : decode? utf8 bs = Utf8.decode? bs := by
  cases bs with
  | nil => exact Utf8.decode?_nil.symm
  | cons b bs => rfl

theorem decode?_utf16be (bs : Bytes) : decode? utf16be bs = ofUnits? (units true bs) := by
  cases bs <;> rfl

theorem encode_latin1 {t : Text} (h : latin1.Has t) :
    encode latin1 t = t.map fun c => UInt8.ofNat c.toNat :=
  List.map_congr_left fun c hc => if_pos (h rfl c hc)

theorem byte_eq_zero {c : Char} (h : c.toNat < 256) (hbyte : UInt8.ofNat c.toNat = 0) :
    c = '\x00' := by
  have hnat := congrArg UInt8.toNat hbyte
  rw [UInt8.toNat_ofNat', Nat.mod_eq_of_lt h] at hnat
  exact Char.toNat_inj.mp hnat

theorem decode?_encode {cs : Charset} {t : Text} (h : cs.Has t) :
    cs.decode? (cs.encode t) = some t := by
  cases cs with
  | latin1 =>
    rw [decode?_latin1, encode_latin1 h, List.map_map]
    refine congrArg some ((List.map_congr_left fun c hc => ?_).trans (List.map_id t))
    have hlt := h rfl c hc
    show Char.ofNat (UInt8.ofNat c.toNat).toNat = c
    rw [UInt8.toNat_ofNat', Nat.mod_eq_of_lt hlt, Char.ofNat_toNat]
  | utf16 =>
    show ofUnits? (units false ((t.flatMap toUnits).flatMap (pair false))) = some t
    rw [units_flatMap_pair (flatMap_toUnits_lt t), ofUnits?_flatMap_toUnits]
  | utf16be =>
    rw [decode?_utf16be, encode_utf16be, units_flatMap_pair (flatMap_toUnits_lt t),
      ofUnits?_flatMap_toUnits]
  | utf8 => rw [decode?_utf8]; exact Utf8.decode?_encode_text t

/-- A character set has the texts that are read in it. -/
theorem has_of_decode? {cs : Charset} {bs : Bytes} {t : Text} (h : cs.decode? bs = some t) :
    cs.Has t := by
  rintro rfl c hc
  rw [decode?_latin1] at h
  obtain rfl := Option.some.inj h
  obtain ⟨b, -, rfl⟩ := List.mem_map.mp hc
  have hb := b.toNat_lt
  rw [Utf8.toNat_ofNat (.inl (by omega))]
  omega

/-! ## Terminators -/

theorem splitZero_eq_none {bs : Bytes} : splitZero bs = none ↔ 0 ∉ bs := by
  fun_induction splitZero bs with
  | case1 => simp
  | case2 => simp
  | case3 b rest hb ih => simp [ih, Ne.symm hb]

theorem splitZeros_eq_none {bs : Bytes} (highFirst : Bool) :
    splitZeros bs = none ↔ 0 ∉ units highFirst bs := by
  fun_induction splitZeros bs with
  | case1 a b rest hab =>
    obtain ⟨rfl, rfl⟩ := hab
    simp [units]
  | case2 a b rest hab ih =>
    have hunit : (0 : Nat) ≠
        if highFirst then a.toNat * 256 + b.toNat else b.toNat * 256 + a.toNat := by
      rw [eq_zero_iff, eq_zero_iff] at hab
      split <;> omega
    simp [units, ih, hunit]
  | case3 bs hshort =>
    have hnil : units highFirst bs = [] := by
      unfold units
      split
      · exact absurd rfl (hshort _ _ _)
      · rfl
    simp [hnil]

theorem splitZero_fst {bs p rest : Bytes} (h : splitZero bs = some (p, rest)) :
    splitZero p = none := by
  fun_induction splitZero bs generalizing p with
  | case1 => cases h
  | case2 => cases h; rfl
  | case3 b bs hb ih =>
    obtain ⟨r, hr, hp⟩ := Option.map_eq_some_iff.mp h
    obtain ⟨rfl, rfl⟩ := Prod.mk.inj hp
    rw [splitZero, if_neg hb, ih hr]
    rfl

theorem splitZeros_fst {bs p rest : Bytes} (h : splitZeros bs = some (p, rest)) :
    splitZeros p = none := by
  fun_induction splitZeros bs generalizing p with
  | case1 => cases h; rfl
  | case2 a b bs hab ih =>
    obtain ⟨r, hr, hp⟩ := Option.map_eq_some_iff.mp h
    obtain ⟨rfl, rfl⟩ := Prod.mk.inj hp
    rw [splitZeros, if_neg hab, ih hr]
    rfl
  | case3 => cases h

/-- The bytes before the first terminator have none. -/
theorem split_fst {cs : Charset} {bs p rest : Bytes} (h : cs.split bs = some (p, rest)) :
    cs.split p = none := by
  unfold split at h ⊢
  split_ifs at h ⊢ with hwide
  · exact splitZeros_fst h
  · exact splitZero_fst h

theorem splitZero_append {bs : Bytes} (h : 0 ∉ bs) (rest : Bytes) :
    splitZero (bs ++ [0] ++ rest) = some (bs, rest) := by
  induction bs with
  | nil => rfl
  | cons b bs ih =>
    rw [List.mem_cons, not_or] at h
    show (if b = 0 then _ else Option.map _ (splitZero (bs ++ [0] ++ rest))) = _
    rw [if_neg (Ne.symm h.1), ih h.2]
    rfl

theorem splitZeros_append (highFirst : Bool) {us : List Nat} (hlt : ∀ u ∈ us, u < 0x10000)
    (h : 0 ∉ us) (rest : Bytes) :
    splitZeros (us.flatMap (pair highFirst) ++ [0, 0] ++ rest) =
      some (us.flatMap (pair highFirst), rest) := by
  induction us with
  | nil => rfl
  | cons u us ih =>
    rw [List.mem_cons, not_or] at h
    obtain ⟨a, b, hab, hcons⟩ := flatMap_pair_cons highFirst u
    have hne : ¬ (a = 0 ∧ b = 0) := fun hzero =>
      h.1 ((hab (hlt u List.mem_cons_self)).mp hzero).symm
    rw [hcons]
    show (if a = 0 ∧ b = 0 then _ else
      Option.map _ (splitZeros (us.flatMap (pair highFirst) ++ [0, 0] ++ rest))) = _
    rw [if_neg hne, ih (fun v hv => hlt v (List.mem_cons_of_mem _ hv)) h.2]
    rfl

/-- Bytes without a terminator are a text without NUL. -/
theorem not_mem_of_split {cs : Charset} {bs : Bytes} {t : Text} (h : cs.split bs = none)
    (ht : cs.decode? bs = some t) : '\x00' ∉ t := by
  have hunits : ∀ {highFirst bs}, splitZeros bs = none →
      ofUnits? (units highFirst bs) = some t → '\x00' ∉ t := by
    intro highFirst bs h ht
    rw [← zero_mem_flatMap_toUnits, flatMap_toUnits_of_ofUnits? ht (units_lt highFirst bs)]
    exact (splitZeros_eq_none highFirst).mp h
  cases cs with
  | latin1 =>
    have h : 0 ∉ bs := splitZero_eq_none.mp h
    rw [decode?_latin1] at ht
    obtain rfl := Option.some.inj ht
    intro hmem
    obtain ⟨b, hb, hchar⟩ := List.mem_map.mp hmem
    have hlt := b.toNat_lt
    have hnat := congrArg Char.toNat hchar
    rw [Utf8.toNat_ofNat (.inl (by omega))] at hnat
    have hzero : b = 0 := eq_zero_iff.mpr hnat
    exact h (hzero ▸ hb)
  | utf16 =>
    have h : splitZeros bs = none := h
    match bs with
    | [] => cases ht; exact List.not_mem_nil
    | [a] => cases ht
    | a :: b :: rest =>
      rw [splitZeros] at h
      split_ifs at h with hab
      exact hunits (Option.map_eq_none_iff.mp h) ht
  | utf16be =>
    rw [decode?_utf16be] at ht
    exact hunits h ht
  | utf8 =>
    have h : 0 ∉ bs := splitZero_eq_none.mp h
    rw [decode?_utf8] at ht
    rw [← Utf8.zero_mem_encode, Utf8.encode_of_decode? ht]
    exact h

theorem not_mem_of_untilTerminator {cs : Charset} {bs : Bytes} {t : Text}
    (ht : cs.decode? (cs.untilTerminator bs) = some t) : '\x00' ∉ t := by
  refine not_mem_of_split ?_ ht
  unfold untilTerminator
  rcases h : cs.split bs with _ | ⟨p, rest⟩
  · exact h
  · exact split_fst h

theorem zero_mem_encode_latin1 {t : Text} (h : latin1.Has t) :
    0 ∈ encode latin1 t ↔ '\x00' ∈ t := by
  rw [encode_latin1 h, List.mem_map]
  exact ⟨fun ⟨c, hc, hbyte⟩ => byte_eq_zero (h rfl c hc) hbyte ▸ hc, fun hc => ⟨_, hc, rfl⟩⟩

/-- The bytes of a text without NUL end where their terminator begins. -/
theorem split_encode_append {cs : Charset} {t : Text} (hhas : cs.Has t) (h : '\x00' ∉ t)
    (rest : Bytes) :
    cs.split (cs.encode t ++ cs.terminator ++ rest) = some (cs.encode t, rest) := by
  have hunits : 0 ∉ t.flatMap toUnits := fun hmem => h ((zero_mem_flatMap_toUnits t).mp hmem)
  cases cs with
  | latin1 => exact splitZero_append (fun hmem => h ((zero_mem_encode_latin1 hhas).mp hmem)) rest
  | utf16 =>
    have hlt : ∀ u ∈ 0xFEFF :: t.flatMap toUnits, u < 0x10000 :=
      List.forall_mem_cons.mpr ⟨by decide, flatMap_toUnits_lt t⟩
    exact splitZeros_append false hlt (by simpa using hunits) rest
  | utf16be => exact splitZeros_append true (flatMap_toUnits_lt t) hunits rest
  | utf8 => exact splitZero_append (fun hmem => h (Utf8.zero_mem_encode.mp hmem)) rest

theorem split_encode {cs : Charset} {t : Text} (hhas : cs.Has t) (h : '\x00' ∉ t) :
    cs.split (cs.encode t) = none := split_fst (split_encode_append hhas h [])

theorem untilTerminator_encode {cs : Charset} {t : Text} (hhas : cs.Has t) (h : '\x00' ∉ t) :
    cs.untilTerminator (cs.encode t) = cs.encode t := by
  rw [untilTerminator, split_encode hhas h]
  rfl

/-! ## Terminators at the end -/

theorem trimZero_append {bs : Bytes} (h : bs.getLast? ≠ some 0) (n : Nat) :
    trimZero (bs ++ List.replicate n 0) = bs := by
  induction bs with
  | nil =>
    induction n with
    | zero => rfl
    | succ n ih =>
      rw [List.nil_append] at ih ⊢
      rw [List.replicate_succ, trimZero, ih]
      rfl
  | cons b bs ih =>
    rw [List.cons_append, trimZero]
    cases bs with
    | nil =>
      have hb : b ≠ 0 := fun hb => h (congrArg some hb)
      rw [ih (by simp)]
      exact if_neg hb
    | cons b' bs => rw [ih (by rwa [List.getLast?_cons_cons] at h)]

theorem trimZeros_append (highFirst : Bool) {us : List Nat} (hlt : ∀ u ∈ us, u < 0x10000)
    (h : us.getLast? ≠ some 0) (n : Nat) :
    trimZeros ((us ++ List.replicate n 0).flatMap (pair highFirst)) =
      us.flatMap (pair highFirst) := by
  induction us with
  | nil =>
    obtain ⟨a, b, hab, hcons⟩ := flatMap_pair_cons highFirst 0
    rw [List.nil_append]
    induction n with
    | zero => rfl
    | succ n ih =>
      rw [List.replicate_succ, hcons, trimZeros, ih]
      exact if_pos ((hab (by decide)).mpr rfl)
  | cons u us ih =>
    have hlt' : ∀ v ∈ us, v < 0x10000 := fun v hv => hlt v (List.mem_cons_of_mem _ hv)
    obtain ⟨a, b, hab, hcons⟩ := flatMap_pair_cons highFirst u
    rw [List.cons_append, hcons, hcons, trimZeros]
    cases us with
    | nil =>
      have hne : ¬ (a = 0 ∧ b = 0) := fun hzero =>
        h (congrArg some ((hab (hlt u List.mem_cons_self)).mp hzero))
      rw [ih hlt' (by simp)]
      exact if_neg hne
    | cons v us =>
      obtain ⟨c, d, -, hcons'⟩ := flatMap_pair_cons highFirst v
      rw [ih hlt' (by rwa [List.getLast?_cons_cons] at h), hcons']

theorem length_flatMap_pair (highFirst : Bool) (us : List Nat) :
    (us.flatMap (pair highFirst)).length = 2 * us.length := by
  induction us with
  | nil => rfl
  | cons u us ih =>
    obtain ⟨a, b, -, hcons⟩ := flatMap_pair_cons highFirst u
    rw [hcons, List.length_cons, List.length_cons, ih, List.length_cons]
    omega

theorem getLast?_tail_ne {α : Type} {a b : α} {l : List α} (h : (a :: l).getLast? ≠ some b) :
    l.getLast? ≠ some b := by
  cases l with
  | nil => simp
  | cons c l => rwa [List.getLast?_cons_cons] at h

section

variable {cs : Charset}

/-- Either all terminators at the end are trimmed off, or none since the head is followed by nothing
else. -/
theorem trimTerminators_narrow (hcs : cs.isWide = false) {bs : Bytes} (h : bs.getLast? ≠ some 0)
    (n : Nat) :
    cs.trimTerminators (bs ++ List.replicate n 0) = bs ++ List.replicate n 0 ∨
      cs.trimTerminators (bs ++ List.replicate n 0) = bs := by
  have htrim : ∀ (b : UInt8) {bs : Bytes} (n : Nat), bs.getLast? ≠ some 0 →
      cs.trimTerminators (b :: (bs ++ List.replicate n 0)) =
        if bs.isEmpty then b :: (bs ++ List.replicate n 0) else b :: bs := by
    intro b bs n h
    simp only [trimTerminators, fixedHead, hcs, Bool.false_eq_true, if_false, List.drop_succ_cons,
      List.drop_zero, List.take_succ_cons, List.take_zero, trimZero_append h, List.singleton_append]
  cases bs with
  | nil =>
    cases n with
    | zero => exact .inl (by simp [trimTerminators, hcs, trimZero])
    | succ n =>
      have hzero := htrim 0 n h
      exact .inl (hzero.trans (if_pos rfl))
  | cons b bs =>
    rw [List.cons_append, htrim b n (getLast?_tail_ne h)]
    split
    · exact .inl rfl
    · exact .inr rfl

theorem trimTerminators_wide (hcs : cs.isWide = true) (highFirst : Bool) {us : List Nat}
    (hlt : ∀ u ∈ us, u < 0x10000) (h : us.getLast? ≠ some 0) (n : Nat) :
    cs.trimTerminators ((us ++ List.replicate n 0).flatMap (pair highFirst)) =
        (us ++ List.replicate n 0).flatMap (pair highFirst) ∨
      cs.trimTerminators ((us ++ List.replicate n 0).flatMap (pair highFirst)) =
        us.flatMap (pair highFirst) := by
  have htrim : ∀ (u : Nat) {us : List Nat} (n : Nat), (∀ u ∈ us, u < 0x10000) →
      us.getLast? ≠ some 0 →
      cs.trimTerminators ((u :: (us ++ List.replicate n 0)).flatMap (pair highFirst)) =
        if (us.flatMap (pair highFirst)).isEmpty then
          (u :: (us ++ List.replicate n 0)).flatMap (pair highFirst)
        else (u :: us).flatMap (pair highFirst) := by
    intro u us n hlt h
    obtain ⟨a, b, -, hcons⟩ := flatMap_pair_cons highFirst u
    have hfixed : cs.fixedHead ((u :: (us ++ List.replicate n 0)).flatMap (pair highFirst)) = 2 := by
      rw [fixedHead, hcs, length_flatMap_pair, if_pos rfl]
      omega
    simp only [trimTerminators]
    rw [hfixed, hcs, hcons, hcons]
    simp only [if_true, List.drop_succ_cons, List.drop_zero, List.take_succ_cons, List.take_zero,
      trimZeros_append highFirst hlt h, List.cons_append, List.nil_append]
  cases us with
  | nil =>
    cases n with
    | zero => exact .inl (by simp [trimTerminators, hcs, trimZeros])
    | succ n =>
      have hzero := htrim 0 n (List.forall_mem_nil _) h
      exact .inl (hzero.trans (if_pos rfl))
  | cons u us =>
    have hlt' : ∀ v ∈ us, v < 0x10000 := fun v hv => hlt v (List.mem_cons_of_mem _ hv)
    rw [List.cons_append, htrim u n hlt' (getLast?_tail_ne h)]
    split
    · exact .inl rfl
    · exact .inr rfl

end

/-- A text up to the characters NUL at its end. -/
theorem exists_eq_append_nuls (t : Text) :
    ∃ s n, t = s ++ List.replicate n '\x00' ∧ s.getLast? ≠ some '\x00' := by
  induction t using List.reverseRecOn with
  | nil => exact ⟨[], 0, rfl, by simp⟩
  | append_singleton t c ih =>
    by_cases hc : c = '\x00'
    · obtain ⟨s, n, rfl, hs⟩ := ih
      refine ⟨s, n + 1, ?_, hs⟩
      rw [hc, List.append_assoc, List.replicate_succ']
    · exact ⟨t ++ [c], 0, by simp, by simpa using hc⟩

theorem flatMap_append_replicate {α β : Type} {f : α → List β} {a : α} {b : β} (hf : f a = [b])
    (l : List α) (n : Nat) :
    (l ++ List.replicate n a).flatMap f = l.flatMap f ++ List.replicate n b := by
  rw [List.flatMap_append, List.flatMap_replicate, hf, List.flatten_replicate_singleton]

theorem getLast?_flatMap_ne {α β : Type} {f : α → List β} {a : α} {b : β} (hf : ∀ c, f c ≠ [])
    (hmem : ∀ c, b ∈ f c → c = a) {l : List α} (h : l.getLast? ≠ some a) :
    (l.flatMap f).getLast? ≠ some b := by
  rcases List.eq_nil_or_concat l with rfl | ⟨l, c, rfl⟩
  · simp
  · intro hlast
    rw [List.concat_eq_append, List.flatMap_append, List.flatMap_singleton,
      List.getLast?_append, List.getLast?_eq_some_getLast (hf c), Option.some_or] at hlast
    have hb : b ∈ f c := Option.some.inj hlast ▸ List.getLast_mem (hf c)
    exact h (by simp [hmem c hb])

theorem trimTerminators_encode {cs : Charset} {s : Text} {n : Nat}
    (hhas : cs.Has (s ++ List.replicate n '\x00')) (h : s.getLast? ≠ some '\x00') :
    let t := s ++ List.replicate n '\x00'
    cs.trimTerminators (cs.encode t) = cs.encode t ∨
      cs.trimTerminators (cs.encode t) = cs.encode s := by
  intro t
  have hunits : t.flatMap toUnits = s.flatMap toUnits ++ List.replicate n 0 :=
    flatMap_append_replicate (a := '\x00') rfl s n
  have hunitsLast : (s.flatMap toUnits).getLast? ≠ some 0 := by
    refine getLast?_flatMap_ne (fun c => ?_) (fun c => (zero_mem_toUnits c).mp) h
    unfold toUnits
    dsimp only
    split <;> simp
  cases cs with
  | latin1 =>
    have hs : latin1.Has s := fun _ c hc => hhas rfl c (List.mem_append_left _ hc)
    have hbytes : encode latin1 t = encode latin1 s ++ List.replicate n 0 := by simp [t, encode]
    have hlast : (encode latin1 s).getLast? ≠ some 0 := by
      intro hlast
      rw [encode_latin1 hs, List.getLast?_map] at hlast
      obtain ⟨c, hc, hbyte⟩ := Option.map_eq_some_iff.mp hlast
      have hnul : c = '\x00' := byte_eq_zero (hs rfl c (List.mem_of_getLast? hc)) hbyte
      exact h (hnul ▸ hc)
    rw [hbytes]
    exact trimTerminators_narrow rfl hlast n
  | utf16 =>
    rw [encode_utf16, encode_utf16, hunits]
    have hlt : ∀ u ∈ 0xFEFF :: s.flatMap toUnits, u < 0x10000 :=
      List.forall_mem_cons.mpr ⟨by decide, flatMap_toUnits_lt s⟩
    have hlast : (0xFEFF :: s.flatMap toUnits).getLast? ≠ some 0 := by
      rw [List.getLast?_cons]
      cases hunit : (s.flatMap toUnits).getLast? with
      | none => decide
      | some u => exact hunit ▸ hunitsLast
    have hwide : utf16.isWide = true := rfl
    exact trimTerminators_wide hwide false hlt hlast n
  | utf16be =>
    rw [encode_utf16be, encode_utf16be, hunits]
    have hwide : utf16be.isWide = true := rfl
    exact trimTerminators_wide hwide true (flatMap_toUnits_lt s) hunitsLast n
  | utf8 =>
    have hbytes : encode utf8 t = encode utf8 s ++ List.replicate n 0 :=
      flatMap_append_replicate (by decide) s n
    have hlast : (encode utf8 s).getLast? ≠ some 0 :=
      getLast?_flatMap_ne (fun c => String.utf8EncodeChar_ne_nil)
        (fun c => Utf8.zero_mem_encodeChar.mp) h
    rw [hbytes]
    exact trimTerminators_narrow rfl hlast n

/-- Without the terminators at the end of its bytes, a text reads back, or what is left of it without
characters NUL at its own end. -/
theorem decode?_trimTerminators {cs : Charset} {t : Text} (hhas : cs.Has t) :
    ∃ s, cs.decode? (cs.trimTerminators (cs.encode t)) = some s ∧
      (t.getLast? ≠ some '\x00' → s = t) := by
  obtain ⟨s, n, rfl, hs⟩ := exists_eq_append_nuls t
  rcases trimTerminators_encode hhas hs with h | h
  · exact ⟨_, (congrArg cs.decode? h).trans (decode?_encode hhas), fun _ => rfl⟩
  · have hhas : cs.Has s := fun hcs c hc => hhas hcs c (List.mem_append_left _ hc)
    refine ⟨s, (congrArg cs.decode? h).trans (decode?_encode hhas), fun hlast => ?_⟩
    cases n with
    | zero => simp
    | succ n =>
      rw [List.replicate_succ', ← List.append_assoc, List.getLast?_concat] at hlast
      exact absurd rfl hlast

end TagEdit.Id3.Charset
