import TagEdit.Proofs.Spacing

/-!
# Where the lexer stands

`Reaches` follows the lexer through a text: it passes a blank or reads a token, one at a time. The
text that it has passed is made of the tokens that it has read, and the tokens of the whole text are
these and the tokens of what is left. A lexer goes on until the text ends or a token has a fault.
-/

namespace TagEdit.Script

open Unicode

/-- A lexer in front of a text that begins at a column reads some tokens and then stands at another
column, in front of the rest. -/
inductive Reaches : Nat → Text → List Placed → Nat → Text → Prop where
  | here (column : Nat) (cs : Text) : Reaches column cs [] column cs
  | blank {column place : Nat} {c : Char} {cs rest : Text} {ts : List Placed} :
      isBlank c = true → Reaches (column + 1) cs ts place rest →
      Reaches column (c :: cs) ts place rest
  | token {column place : Nat} {c : Char} {lexeme after rest : Text} {t : Token}
      {ts : List Placed} :
      isBlank c = false → scan c (lexeme ++ after) = .ok (t, after) →
      Reaches (column + 1 + lexeme.length) after ts place rest →
      Reaches column (c :: (lexeme ++ after)) (⟨t, column⟩ :: ts) place rest

/-- Induction along the steps of the lexer. -/
theorem lexer_induction {P : Text → Prop} (nil : P [])
    (blank : ∀ c cs, isBlank c = true → P cs → P (c :: cs))
    (fault : ∀ c cs cause, isBlank c = false → scan c cs = .error cause → P (c :: cs))
    (token : ∀ c lexeme after t, isBlank c = false → scan c (lexeme ++ after) = .ok (t, after) →
      P after → P (c :: (lexeme ++ after))) (cs : Text) : P cs := by
  induction hn : cs.length using Nat.strongRecOn generalizing cs with
  | ind n ih =>
    subst hn
    rcases cs with _ | ⟨c, cs⟩
    · exact nil
    rcases hc : isBlank c with _ | _
    · rcases hs : scan c cs with cause | ⟨t, after⟩
      · exact fault c cs cause hc hs
      · obtain ⟨lexeme, rfl, -⟩ := endsFor_scan hs
        refine token c lexeme after t hc hs (ih after.length ?_ after rfl)
        simp only [List.length_cons, List.length_append]
        omega
    · exact blank c cs hc (ih cs.length (Nat.lt_succ_self _) cs rfl)

/-- Tokens in front of others. -/
def Tokens.behind (ts : List Placed) (us : Tokens) : Tokens := { us with list := ts ++ us.list }

variable {column place : Nat} {cs rest : Text} {ts : List Placed}

theorem tokensFrom_fault_at {c : Char} {cause : Cause} (hc : isBlank c = false)
    (hs : scan c rest = .error cause) : tokensFrom column (c :: rest) = .error ⟨cause, column⟩ := by
  have hdrop : (c :: rest).dropWhile isBlank = c :: rest := by
    rw [List.dropWhile_cons, hc]
    rfl
  rw [tokensFrom_fault hdrop hs]
  simp [startColumn]

theorem tokensFrom_token_at {c : Char} {lexeme after : Text} {t : Token} (hc : isBlank c = false)
    (hs : scan c (lexeme ++ after) = .ok (t, after)) :
    tokensFrom column (c :: (lexeme ++ after)) =
      (tokensFrom (column + 1 + lexeme.length) after).map (Tokens.behind [⟨t, column⟩]) :=
  tokensFrom_lexeme (b := []) (by simp) hc hs column

namespace Reaches

/-- The tokens of a text are those that the lexer has read and those of the rest. -/
theorem tokensFrom_eq (h : Reaches column cs ts place rest) :
    tokensFrom column cs = (tokensFrom place rest).map (Tokens.behind ts) := by
  induction h with
  | here column cs => rcases tokensFrom column cs with e | us <;> rfl
  | blank hc _ ih => rw [tokensFrom_cons_blank hc, ih]
  | token hc hs _ ih =>
    rw [tokensFrom_token_at hc hs, ih]
    rcases tokensFrom _ _ with e | us <;> rfl

theorem fault {c : Char} {cause : Cause} (h : Reaches column cs ts place (c :: rest))
    (hc : isBlank c = false) (hs : scan c rest = .error cause) :
    tokensFrom column cs = .error ⟨cause, place⟩ := by
  rw [h.tokensFrom_eq, tokensFrom_fault_at hc hs]
  rfl

/-- A text is cut where the lexer stands: the part in front of it has the tokens that were read. The
end of a token does not depend on what is behind it. -/
theorem exists_before (h : Reaches column cs ts place rest) : ∃ before, cs = before ++ rest ∧
    place = column + before.length ∧ tokensFrom column before = .ok ⟨ts, place⟩ := by
  induction h with
  | here column cs => exact ⟨[], rfl, rfl, tokensFrom_blank rfl⟩
  | @blank column place c cs rest ts hc _ ih =>
    obtain ⟨before, rfl, hplace, htokens⟩ := ih
    refine ⟨c :: before, rfl, ?_, by rw [tokensFrom_cons_blank hc, htokens]⟩
    rw [hplace, List.length_cons]
    omega
  | @token column place c lexeme after rest t ts hc hs _ ih =>
    obtain ⟨before, rfl, hplace, htokens⟩ := ih
    obtain ⟨read, heq, hread⟩ := endsFor_scan hs
    obtain rfl : lexeme = read := List.append_cancel_right heq
    refine ⟨c :: (lexeme ++ before), by simp, ?_, ?_⟩
    · rw [hplace, List.length_cons, List.length_append]
      omega
    · rw [tokensFrom_token_at hc (hread before (follows_front t before rest)), htokens]
      rfl

/-- The columns of the tokens, and the one where the lexer stands, increase. -/
theorem starts_increase (h : Reaches column cs ts place rest) :
    (Tokens.starts ⟨ts, place⟩).Pairwise (· < ·) ∧ ∀ p ∈ Tokens.starts ⟨ts, place⟩, column ≤ p := by
  induction h with
  | here => simp [Tokens.starts]
  | blank _ _ ih => exact ⟨ih.1, fun p hp => Nat.le_of_succ_le (ih.2 p hp)⟩
  | @token column _ _ lexeme _ _ _ _ _ _ _ ih =>
    have hlater : ∀ p ∈ Tokens.starts ⟨_, _⟩, column < p := fun p hp => by
      have hp := ih.2 p hp
      omega
    refine ⟨List.pairwise_cons.mpr ⟨hlater, ih.1⟩, fun p hp => ?_⟩
    rcases List.mem_cons.mp hp with rfl | hp
    · exact Nat.le_refl _
    · exact Nat.le_of_lt (hlater p hp)

/-- On its way the lexer has stood in front of each token that it has read. -/
theorem at_token {us vs : List Placed} {t : Placed}
    (h : Reaches column cs (us ++ t :: vs) place rest) :
    ∃ c after, isBlank c = false ∧ Reaches column cs us t.column (c :: after) := by
  generalize hread : us ++ t :: vs = ts at h
  induction h generalizing us with
  | here => simp at hread
  | blank hc _ ih =>
    obtain ⟨d, after, hd, hreach⟩ := ih hread
    exact ⟨d, after, hd, .blank hc hreach⟩
  | @token column _ c lexeme after _ _ _ hc hs _ ih =>
    rcases us with _ | ⟨u, us⟩
    · obtain ⟨rfl, rfl⟩ := List.cons.inj hread
      exact ⟨c, lexeme ++ after, hc, .here column _⟩
    · obtain ⟨rfl, htail⟩ := List.cons.inj hread
      obtain ⟨d, after, hd, hreach⟩ := ih htail
      exact ⟨d, after, hd, .token hc hs hreach⟩

end Reaches

/-- The lexer goes on until the text ends or a token has a fault. -/
theorem reaches_end_or_fault (column : Nat) (cs : Text) :
    (∃ ts, Reaches column cs ts (column + cs.length) []) ∨
      ∃ ts place c rest cause, Reaches column cs ts place (c :: rest) ∧ isBlank c = false ∧
        scan c rest = .error cause := by
  induction cs using lexer_induction generalizing column with
  | nil => exact .inl ⟨[], .here column []⟩
  | blank c cs hc ih =>
    have hend : column + (c :: cs).length = column + 1 + cs.length := by
      rw [List.length_cons]
      omega
    rw [hend]
    rcases ih (column + 1) with ⟨ts, h⟩ | ⟨ts, place, d, rest, cause, h, hd, hs⟩
    · exact .inl ⟨ts, .blank hc h⟩
    · exact .inr ⟨ts, place, d, rest, cause, .blank hc h, hd, hs⟩
  | fault c cs cause hc hs => exact .inr ⟨[], column, c, cs, cause, .here _ _, hc, hs⟩
  | token c lexeme after t hc hs ih =>
    have hend : column + (c :: (lexeme ++ after)).length =
        column + 1 + lexeme.length + after.length := by
      rw [List.length_cons, List.length_append]
      omega
    rw [hend]
    rcases ih (column + 1 + lexeme.length) with ⟨ts, h⟩ | ⟨ts, place, d, rest, cause, h, hd, hs'⟩
    · exact .inl ⟨_, .token hc hs h⟩
    · exact .inr ⟨_, place, d, rest, cause, .token hc hs h, hd, hs'⟩

/-- A text has tokens if the lexer reaches its end. -/
theorem reaches_of_ok {us : Tokens} (h : tokensFrom column cs = .ok us) :
    us.stop = column + cs.length ∧ Reaches column cs us.list us.stop [] := by
  rcases reaches_end_or_fault column cs with
    ⟨ts, hreach⟩ | ⟨ts, place, c, rest, cause, hreach, hc, hs⟩
  · rw [hreach.tokensFrom_eq, tokensFrom_blank rfl] at h
    cases h
    simpa [Tokens.behind] using hreach
  · rw [hreach.fault hc hs] at h
    cases h

/-- An error lies where the lexer stands in front of a token that has a fault. -/
theorem reaches_of_error {e : SyntaxError} (h : tokensFrom column cs = .error e) :
    ∃ ts c rest, Reaches column cs ts e.column (c :: rest) ∧ isBlank c = false ∧
      scan c rest = .error e.cause := by
  rcases reaches_end_or_fault column cs with
    ⟨ts, hreach⟩ | ⟨ts, place, c, rest, cause, hreach, hc, hs⟩
  · rw [hreach.tokensFrom_eq, tokensFrom_blank rfl] at h
    cases h
  · rw [hreach.fault hc hs] at h
    cases h
    exact ⟨ts, c, rest, hreach, hc, hs⟩

end TagEdit.Script
