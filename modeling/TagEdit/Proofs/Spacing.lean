import TagEdit.Proofs.Classes
import TagEdit.Proofs.Lexing

/-!
# Blanks between tokens

A token has ended for good where the next one begins: it is read the same if blanks are put between
the two, and nothing further on can change it. So blanks in front of a token, or at the end of a
source, change nothing but columns.
-/

namespace TagEdit.Script

open Unicode

/-! ## Blanks end tokens -/

theorem isPunctuation_of_isBracket {c : Char} (h : isBracket c = true) :
    isPunctuation c = true := by
  have hall : ("()[]\x7b\x7d<>".toList.all isPunctuation) = true := by decide
  exact List.all_eq_true.mp hall c (List.contains_iff_mem.mp h)

theorem isPunctuation_of_isBlank {x : Char} (hx : isBlank x = true) : isPunctuation x = false := by
  have hn := le_or_ge_of_isBlank hx
  simp only [isPunctuation, Bool.or_eq_false_iff, Bool.and_eq_false_iff, decide_eq_false_iff_not]
  omega

theorem separates_blank {x : Char} (hx : isBlank x = true) : Separates x := by
  refine ⟨?_, isDigit_of_isBlank hx, isAlpha_of_isBlank hx, ?_⟩
  · have hne : x ≠ '_' := by
      rintro rfl
      cases hx
    rw [isNameChar, isAlphanumeric_of_isBlank hx, Bool.false_or]
    exact beq_eq_false_iff_ne.mpr hne
  · refine ⟨?_, ?_, ?_⟩ <;> rintro rfl <;> cases hx

theorem not_opens_of_isBlank {x : Char} (hx : isBlank x = true) :
    (isDelimiter x || isBracket x) = false := by
  have hp := isPunctuation_of_isBlank hx
  have hb : isBracket x = false := Bool.eq_false_iff.mpr fun h => by
    rw [isPunctuation_of_isBracket h] at hp
    cases hp
  simp only [isDelimiter, hp, hb, Bool.false_and, Bool.or_self]

variable {cs rest : Text} {t : Token}

/-! ## Whole sources -/

theorem tokensFrom_blanks {b : Text} (hb : ∀ c ∈ b, isBlank c = true) (cs : Text) (column : Nat) :
    tokensFrom column (b ++ cs) = tokensFrom (column + b.length) cs := by
  induction b generalizing column with
  | nil => rfl
  | cons c b ih =>
    rw [List.cons_append, tokensFrom_cons_blank (hb c List.mem_cons_self),
      ih fun a ha => hb a (List.mem_cons_of_mem _ ha), List.length_cons]
    congr 1
    omega

/-- Blanks, a token of known length and the text behind it. -/
theorem tokensFrom_lexeme {b lexeme rest : Text} {c : Char} (hb : ∀ a ∈ b, isBlank a = true)
    (hc : isBlank c = false) (hs : scan c (lexeme ++ rest) = .ok (t, rest)) (column : Nat) :
    tokensFrom column (b ++ c :: (lexeme ++ rest)) =
      (tokensFrom (column + b.length + 1 + lexeme.length) rest).map fun us =>
        { us with list := ⟨t, column + b.length⟩ :: us.list } := by
  have hdrop : (c :: (lexeme ++ rest)).dropWhile isBlank = c :: (lexeme ++ rest) := by
    rw [List.dropWhile_cons, hc]
    rfl
  rw [tokensFrom_blanks hb, tokensFrom_token hdrop hs]
  have hstart : startColumn (column + b.length) (c :: (lexeme ++ rest))
      ((lexeme ++ rest).length + 1) = column + b.length := by simp [startColumn]
  have hnext : (lexeme ++ rest).length + 1 - rest.length = 1 + lexeme.length := by
    simp only [List.length_append]
    omega
  rw [hstart, hnext, ← Nat.add_assoc]

/-- The columns at which the tokens of a source start, the end of the source included. -/
def Tokens.starts (ts : Tokens) : List Nat := ts.list.map Placed.column ++ [ts.stop]

theorem Tokens.moved_congr {f g : Nat → Nat} {ts : Tokens} (h : ∀ p ∈ ts.starts, f p = g p) :
    ts.moved f = ts.moved g := by
  have hlist : movedAll f ts.list = movedAll g ts.list := List.map_congr_left fun u hu => by
    rw [Placed.moved, Placed.moved, h _ (List.mem_append_left _ (List.mem_map_of_mem hu))]
  rw [Tokens.moved, Tokens.moved, hlist, h ts.stop (List.mem_append_right _ (by simp))]

/-- Tokens start within the text. -/
theorem bounds_of_mem_starts {column : Nat} {ts : Tokens} (h : tokensFrom column cs = .ok ts) :
    ∀ p ∈ ts.starts, column ≤ p ∧ p ≤ column + cs.length := by
  induction cs using token_induction generalizing column ts with
  | blank cs hb =>
    rw [tokensFrom_blank hb] at h
    cases h
    simp [Tokens.starts]
  | fault cs c rest cause hb hs =>
    rw [tokensFrom_fault hb hs] at h
    cases h
  | token cs c rest t after hb hs hle hlt ih =>
    rw [tokensFrom_token hb hs] at h
    obtain ⟨us, hus, rfl⟩ := exists_of_map_eq_ok h
    intro p hp
    rcases List.mem_cons.mp hp with rfl | hp
    · simp only [startColumn]
      omega
    · have hp := ih hus p hp
      simp only [startColumn] at hp
      omega

/-- Where a column is after something has been put in at a place. -/
def pushed (place n column : Nat) : Nat := if column < place then column else column + n

theorem follows_insert (t : Token) {w : Text} (hw : ∀ c ∈ w, isBlank c = true) (l after : Text) :
    Follows t (l ++ after) (l ++ (w ++ after)) := by
  rcases w with _ | ⟨x, w⟩
  · exact ⟨fun _ => .inr, fun _ _ => .inr, id⟩
  · have hx := hw x List.mem_cons_self
    exact follows_separated (separates_blank hx) (fun _ => not_opens_of_isBlank hx) l after (w ++ after)

theorem tokensFrom_insert_front {w b after : Text} {column : Nat} {ts : Tokens}
    (hw : ∀ c ∈ w, isBlank c = true) (hb : ∀ c ∈ b, isBlank c = true)
    (h : tokensFrom column (b ++ after) = .ok ts) :
    tokensFrom column (b ++ (w ++ after)) =
      .ok (ts.moved (pushed (column + b.length) w.length)) := by
  rw [tokensFrom_blanks hb] at h
  rw [tokensFrom_blanks hb, tokensFrom_blanks hw, tokensFrom_add, h]
  refine congrArg Except.ok (Tokens.moved_congr fun p hp => ?_)
  exact (if_neg (Nat.not_lt.mpr (bounds_of_mem_starts h p hp).1)).symm

theorem exists_of_append_eq_append {α : Type} {a b c d : List α} (h : a ++ b = c ++ d)
    (hle : a.length ≤ c.length) : ∃ l, c = a ++ l ∧ b = l ++ d := by
  obtain ⟨l, rfl⟩ := List.prefix_of_prefix_length_le ⟨b, h⟩ ⟨d, rfl⟩ hle
  rw [List.append_assoc] at h
  exact ⟨l, rfl, List.append_cancel_left h⟩

/-- Blanks at the start of a token, or at the end. The induction goes along the tokens in front of
the place; each of them has ended there for good. -/
theorem tokensFrom_insert {w before after : Text} {column : Nat} {ts : Tokens}
    (hw : ∀ c ∈ w, isBlank c = true) (hcs : cs = before ++ after)
    (h : tokensFrom column cs = .ok ts) (hp : column + before.length ∈ ts.starts) :
    tokensFrom column (before ++ (w ++ after)) =
      .ok (ts.moved (pushed (column + before.length) w.length)) := by
  induction cs using token_induction generalizing before column ts with
  | blank cs hb =>
    subst hcs
    have hblank : ∀ c ∈ before, isBlank c = true := fun c hc =>
      List.dropWhile_eq_nil_iff.mp hb c (List.mem_append_left _ hc)
    exact tokensFrom_insert_front hw hblank h
  | fault cs c rest cause hb hs =>
    rw [tokensFrom_fault hb hs] at h
    cases h
  | token cs c rest t next hb hs _ _ ih =>
    obtain ⟨lexeme, rfl, hlexeme⟩ := endsFor_scan hs
    have hc : isBlank c = false := not_of_mem_head?_dropWhile (by rw [hb]; rfl)
    have hblank : ∀ a ∈ cs.takeWhile isBlank, isBlank a = true := fun _ => List.mem_takeWhile_imp
    have hsplit : cs = cs.takeWhile isBlank ++ c :: (lexeme ++ next) := by
      rw [← hb, List.takeWhile_append_dropWhile]
    generalize cs.takeWhile isBlank = b at hsplit hblank
    subst hsplit
    have hread := h
    rw [tokensFrom_lexeme hblank hc hs] at hread
    obtain ⟨us, hus, rfl⟩ := exists_of_map_eq_ok hread
    rcases List.mem_cons.mp hp with hfirst | hlater
    · obtain ⟨rfl, rfl⟩ := List.append_inj hcs.symm (Nat.add_left_cancel hfirst)
      exact tokensFrom_insert_front hw hblank h
    · have hle : (b ++ c :: lexeme).length ≤ before.length := by
        have hbound := (bounds_of_mem_starts hus _ hlater).1
        simp only [List.length_append, List.length_cons]
        omega
      obtain ⟨l, rfl, rfl⟩ := exists_of_append_eq_append (by simpa using hcs) hle
      have hplace : column + (b ++ c :: lexeme ++ l).length =
          column + b.length + 1 + lexeme.length + l.length := by
        simp only [List.length_append, List.length_cons]
        omega
      rw [hplace] at hlater ⊢
      have hrest := ih rfl hus hlater
      have hs' := hlexeme _ (follows_insert t hw l after)
      have htext : b ++ c :: lexeme ++ l ++ (w ++ after) =
          b ++ c :: (lexeme ++ (l ++ (w ++ after))) := by simp
      rw [htext, tokensFrom_lexeme hblank hc hs', hrest]
      have hkept : pushed (column + b.length + 1 + lexeme.length + l.length) w.length
          (column + b.length) = column + b.length := if_pos (by omega)
      simp only [Except.map, Tokens.moved, movedAll_cons, Placed.moved, hkept]

/-- Blanks between tokens are ignored. Put in where a token starts, or at the end, they leave every
token as it is; the columns from there on grow by their number, those in front stay. -/
theorem blanks_between_tokens {source : Text} {ts : Tokens} (h : tokenize source = .ok ts) {k : Nat}
    (hk : k + 1 ∈ ts.starts) {w : Text} (hw : ∀ c ∈ w, isBlank c = true) :
    tokenize (source.take k ++ w ++ source.drop k) = .ok (ts.moved (pushed (k + 1) w.length)) := by
  have hle := (bounds_of_mem_starts h _ hk).2
  have hlength : (source.take k).length = k := List.length_take_of_le (by omega)
  have hplace : 1 + (source.take k).length = k + 1 := by rw [hlength, Nat.add_comm]
  have hcs : source = source.take k ++ source.drop k := (List.take_append_drop k source).symm
  have hinsert := tokensFrom_insert hw hcs h (by rwa [hplace])
  rwa [hplace, ← List.append_assoc] at hinsert

/-- Blanks between a number and the point behind it, which no digit follows. -/
theorem blanks_between_tokens_point :
    let ts : Tokens := ⟨[⟨.int 3, 1⟩, ⟨.dot, 2⟩, ⟨.ident "s".toList, 3⟩], 4⟩
    let w : Text := [' ', Char.ofNat 0x3000]
    tokenize "3.s".toList = .ok ts ∧ 1 + 1 ∈ ts.starts ∧ (∀ c ∈ w, isBlank c = true) ∧
      tokenize ("3".toList ++ w ++ ".s".toList) =
        .ok ⟨[⟨.int 3, 1⟩, ⟨.dot, 4⟩, ⟨.ident "s".toList, 5⟩], 6⟩ := by
  intro ts w
  have h : tokenize "3.s".toList = .ok ts := by decide +kernel
  have hk : 1 + 1 ∈ ts.starts := by decide
  have hw : ∀ c ∈ w, isBlank c = true := by simp [w]; decide
  exact ⟨h, hk, hw, blanks_between_tokens h hk hw⟩

end TagEdit.Script
