import TagEdit.Proofs.Columns
import TagEdit.Proofs.Lexemes

/-!
# The tokens of a source

The tokens of a text are read one after the other, with blanks in front of each, so a fact about all
of them is proved by induction along the tokens. They do not depend on the column where the text
begins, and those of an accepted text stay the same when a semicolon and more text are appended.
-/

namespace TagEdit.Script

open Unicode

/-! ## Whole sources -/

theorem tokensFrom_blank {column : Nat} {cs : Text} (h : cs.dropWhile isBlank = []) :
    tokensFrom column cs = .ok ⟨[], column + cs.length⟩ := by
  rw [tokensFrom]
  split
  · rfl
  · rename_i heq
    rw [h] at heq
    cases heq

/-- The column of the first token of a text of which `n` characters begin with it. -/
abbrev startColumn (column : Nat) (cs : Text) (n : Nat) : Nat := column + (cs.length - n)

theorem tokensFrom_fault {column : Nat} {cs rest : Text} {c : Char} {cause : Cause}
    (h : cs.dropWhile isBlank = c :: rest) (hs : scan c rest = .error cause) :
    tokensFrom column cs = .error ⟨cause, startColumn column cs (rest.length + 1)⟩ := by
  rw [tokensFrom]
  split
  · rename_i heq
    rw [h] at heq
    cases heq
  · rename_i c' rest' heq
    rw [h] at heq
    cases heq
    split
    · rename_i hs'
      rw [hs] at hs'
      cases hs'
      rfl
    · rename_i hs'
      rw [hs] at hs'
      cases hs'

theorem tokensFrom_token {column : Nat} {cs rest after : Text} {c : Char} {t : Token}
    (h : cs.dropWhile isBlank = c :: rest) (hs : scan c rest = .ok (t, after)) :
    tokensFrom column cs =
      (tokensFrom (startColumn column cs (rest.length + 1) + (rest.length + 1 - after.length))
        after).map fun ts =>
          { ts with list := ⟨t, startColumn column cs (rest.length + 1)⟩ :: ts.list } := by
  rw [tokensFrom]
  split
  · rename_i heq
    rw [h] at heq
    cases heq
  · rename_i c' rest' heq
    rw [h] at heq
    cases heq
    split
    · rename_i hs'
      rw [hs] at hs'
      cases hs'
    · rename_i t' after' hs'
      rw [hs] at hs'
      cases hs'
      dsimp only
      split
      · rename_i he
        rw [he]
        rfl
      · rename_i ts he
        rw [he]
        rfl

/-- Induction along the tokens of a text: only blanks are left, the next token has a fault, or
the text goes on behind the next token. -/
theorem token_induction {P : Text → Prop} (blank : ∀ cs, cs.dropWhile isBlank = [] → P cs)
    (fault : ∀ cs c rest cause, cs.dropWhile isBlank = c :: rest →
      scan c rest = .error cause → P cs)
    (token : ∀ cs c rest t after, cs.dropWhile isBlank = c :: rest →
      scan c rest = .ok (t, after) → after.length ≤ rest.length → rest.length < cs.length →
      P after → P cs) (cs : Text) : P cs := by
  induction hn : cs.length using Nat.strongRecOn generalizing cs with
  | ind n ih =>
    subst hn
    rcases h : cs.dropWhile isBlank with _ | ⟨c, rest⟩
    · exact blank cs h
    · rcases hs : scan c rest with cause | ⟨t, after⟩
      · exact fault cs c rest cause h hs
      · have h1 := length_scan_le hs
        have h2 := List.length_dropWhile_le isBlank cs
        rw [h, List.length_cons] at h2
        exact token cs c rest t after h hs h1 h2
          (ih after.length (Nat.lt_of_le_of_lt h1 h2) after rfl)

/-- Tokens at other columns. -/
def Tokens.moved (f : Nat → Nat) (ts : Tokens) : Tokens := ⟨movedAll f ts.list, f ts.stop⟩

/-- The tokens of a text that begins further on are as much further on. -/
theorem tokensFrom_add (d : Nat) (cs : Text) (column : Nat) :
    tokensFrom (column + d) cs =
      ((tokensFrom column cs).map (Tokens.moved (· + d))).mapError
        (SyntaxError.moved (· + d)) := by
  induction cs using token_induction generalizing column with
  | blank cs h =>
    rw [tokensFrom_blank h, tokensFrom_blank h, Nat.add_right_comm]
    rfl
  | fault cs c rest cause h hs =>
    rw [tokensFrom_fault h hs, tokensFrom_fault h hs, startColumn, Nat.add_right_comm]
    rfl
  | token cs c rest t after h hs _ _ ih =>
    rw [tokensFrom_token h hs, tokensFrom_token h hs]
    rw [startColumn, Nat.add_right_comm column d, Nat.add_right_comm _ d, ih]
    rcases tokensFrom _ after with e | ts <;> rfl

theorem dropWhile_append_of_not {α : Type} {p : α → Bool} {x : α} (hx : p x = false)
    (l more : List α) : (l ++ x :: more).dropWhile p = l.dropWhile p ++ x :: more := by
  induction l with
  | nil => simp [hx]
  | cons a l ih =>
    simp only [List.cons_append, List.dropWhile_cons, ih]
    split <;> rfl

/-- The text of an accepted source, a semicolon and more text: the tokens of the source, the
semicolon and the tokens of the rest. -/
theorem tokensFrom_append_semicolon {cs : Text} {column : Nat} {ts : Tokens}
    (h : tokensFrom column cs = .ok ts) (hw : ∀ t ∈ ts.list, ¬ t.token.Opens) (more : Text) :
    tokensFrom column (cs ++ ';' :: more) =
      (tokensFrom (column + cs.length + 1) more).map fun us =>
        { us with list := ts.list ++ ⟨.semicolon, column + cs.length⟩ :: us.list } := by
  have hsemi : isBlank ';' = false := by decide
  induction cs using token_induction generalizing column ts with
  | blank cs hb =>
    rw [tokensFrom_blank hb] at h
    cases h
    have hb : (cs ++ ';' :: more).dropWhile isBlank = ';' :: more := by
      rw [dropWhile_append_of_not hsemi, hb, List.nil_append]
    have hscan : scan ';' more = .ok (.semicolon, more) := rfl
    have hstart : startColumn column (cs ++ ';' :: more) (more.length + 1) =
        column + cs.length := by simp [startColumn]
    rw [tokensFrom_token hb hscan, hstart, Nat.add_sub_cancel_left]
    rfl
  | fault cs c rest cause hb hs =>
    rw [tokensFrom_fault hb hs] at h
    cases h
  | token cs c rest t after hb hs hle hlt ih =>
    rw [tokensFrom_token hb hs] at h
    obtain ⟨us, hus, rfl⟩ := exists_of_map_eq_ok h
    have ht : ¬ t.Opens := hw ⟨t, _⟩ List.mem_cons_self
    have hs' : scan c (rest ++ ';' :: more) = .ok (t, after ++ ';' :: more) :=
      scan_append separates_semicolon (fun h => absurd h ht) hs
    have hb' : (cs ++ ';' :: more).dropWhile isBlank = c :: (rest ++ ';' :: more) := by
      rw [dropWhile_append_of_not hsemi, hb, List.cons_append]
    have hstart : startColumn column (cs ++ ';' :: more) ((rest ++ ';' :: more).length + 1) =
        startColumn column cs (rest.length + 1) := by simp [startColumn]; omega
    have hnext : (rest ++ ';' :: more).length + 1 - (after ++ ';' :: more).length =
        rest.length + 1 - after.length := by simp; omega
    have hstop : startColumn column cs (rest.length + 1) + (rest.length + 1 - after.length) +
        after.length = column + cs.length := by simp only [startColumn]; omega
    rw [tokensFrom_token hb' hs', hstart, hnext,
      ih hus fun t ht => hw t (List.mem_cons_of_mem _ ht), hstop]
    rcases tokensFrom (column + cs.length + 1) more with e | vs <;> rfl

/-! ## The tokens of a text, without columns -/

theorem tokensFrom_cons_blank {c : Char} (hc : isBlank c = true) (cs : Text) (column : Nat) :
    tokensFrom column (c :: cs) = tokensFrom (column + 1) cs := by
  have hdrop : (c :: cs).dropWhile isBlank = cs.dropWhile isBlank := by
    rw [List.dropWhile_cons, if_pos hc]
  have hstart : ∀ {a : Char} {rest : Text}, cs.dropWhile isBlank = a :: rest →
      startColumn column (c :: cs) (rest.length + 1) =
        startColumn (column + 1) cs (rest.length + 1) := by
    intro a rest h
    have hle := List.length_dropWhile_le isBlank cs
    rw [h, List.length_cons] at hle
    simp only [startColumn, List.length_cons]
    omega
  rcases h : cs.dropWhile isBlank with _ | ⟨a, rest⟩
  · rw [tokensFrom_blank (hdrop.trans h), tokensFrom_blank h, List.length_cons]
    simp only [Except.ok.injEq, Tokens.mk.injEq, true_and]
    omega
  · rcases hs : scan a rest with cause | ⟨t, after⟩
    · rw [tokensFrom_fault (hdrop.trans h) hs, tokensFrom_fault h hs, hstart h]
    · rw [tokensFrom_token (hdrop.trans h) hs, tokensFrom_token h hs, hstart h]

/-- A text is made of some tokens, wherever it begins. -/
def Lexes (cs : Text) (us : List Token) : Prop :=
  ∀ column, ∃ ts, tokensFrom column cs = .ok ts ∧ ts.list.map Placed.token = us

theorem Lexes.nil : Lexes [] [] := fun _ => ⟨_, tokensFrom_blank rfl, rfl⟩

theorem Lexes.blank {c : Char} {cs : Text} {us : List Token} (hc : isBlank c = true)
    (h : Lexes cs us) : Lexes (c :: cs) us := fun column => by
  rw [tokensFrom_cons_blank hc]
  exact h (column + 1)

theorem Lexes.token {c : Char} {cs rest : Text} {t : Token} {us : List Token}
    (hc : isBlank c = false) (hs : scan c cs = .ok (t, rest)) (h : Lexes rest us) :
    Lexes (c :: cs) (t :: us) := fun column => by
  have hdrop : (c :: cs).dropWhile isBlank = c :: cs := by
    rw [List.dropWhile_cons, hc]
    rfl
  rw [tokensFrom_token hdrop hs]
  obtain ⟨ts, hts, rfl⟩ := h (startColumn column (c :: cs) (cs.length + 1) +
    (cs.length + 1 - rest.length))
  rw [hts]
  exact ⟨_, rfl, rfl⟩

end TagEdit.Script
