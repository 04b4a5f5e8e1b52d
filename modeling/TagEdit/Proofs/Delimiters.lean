import TagEdit.Proofs.Standing

/-!
# Bodies between delimiters

A body is read up to the first delimiter that no backslash escapes. So a substitution or a match is
split at its delimiters if its bodies are clean for them, whatever the delimiter is, and it is a
fault if it does not go on with clean bodies that are closed.
-/

namespace TagEdit.Script

open Unicode

/-! ## Bodies -/

variable {d : Char} {cs body rest : Text}

/-- What is read as a body is clean, and the delimiter follows it. -/
theorem clean_of_readBody (h : readBody d cs = some (body, rest)) :
    Clean d body ∧ cs = body ++ d :: rest := by
  fun_induction readBody d cs generalizing body rest with
  | case1 => cases h
  | case2 cs =>
    cases h
    exact ⟨.nil, rfl⟩
  | case3 => cases h
  | case4 e cs hd ih =>
    obtain ⟨⟨b, r⟩, hr, heq⟩ := Option.map_eq_some_iff.mp h
    cases heq
    obtain ⟨hclean, rfl⟩ := ih hr
    exact ⟨.escape e hclean, rfl⟩
  | case5 c cs hd hc ih =>
    obtain ⟨⟨b, r⟩, hr, heq⟩ := Option.map_eq_some_iff.mp h
    cases heq
    obtain ⟨hclean, rfl⟩ := ih hr
    exact ⟨.char hd hc hclean, rfl⟩

theorem readBody_eq_some_iff (hd : d ≠ '\\') :
    readBody d cs = some (body, rest) ↔ Clean d body ∧ cs = body ++ d :: rest := by
  refine ⟨clean_of_readBody, ?_⟩
  rintro ⟨hclean, rfl⟩
  exact hclean.readBody hd rest

theorem readBody_eq_none_iff (hd : d ≠ '\\') :
    readBody d cs = none ↔ ∀ body rest, Clean d body → cs ≠ body ++ d :: rest := by
  rw [Option.eq_none_iff_forall_ne_some, Prod.forall]
  refine forall_congr' fun body => forall_congr' fun rest => ?_
  rw [ne_eq, readBody_eq_some_iff hd, not_and]

theorem scanMatch_eq_error_iff (hd : d ≠ '\\') : scanMatch d cs = .error (.unclosed d) ↔
    ∀ pattern rest, Clean d pattern → cs ≠ pattern ++ d :: rest := by
  refine ⟨fun h pattern rest hpattern heq => ?_, fun h => ?_⟩
  · rw [heq, scanMatch, hpattern.readBody hd] at h
    cases h
  · rw [scanMatch, (readBody_eq_none_iff hd).mpr h]

theorem scanSubst_eq_error_iff (hd : d ≠ '\\') : scanSubst d cs = .error (.unclosed d) ↔
    ∀ pattern replacement rest, Clean d pattern → Clean d replacement →
      cs ≠ pattern ++ d :: (replacement ++ d :: rest) := by
  refine ⟨fun h pattern replacement rest hpattern hreplacement heq => ?_, fun h => ?_⟩
  · simp only [heq, scanSubst, hpattern.readBody hd, hreplacement.readBody hd] at h
    cases h
  · unfold scanSubst
    rcases hp : readBody d cs with _ | ⟨pattern, cs'⟩
    · rfl
    obtain ⟨hpattern, rfl⟩ := clean_of_readBody hp
    have hnone : readBody d cs' = none := (readBody_eq_none_iff hd).mpr
      fun replacement rest hreplacement heq => h _ _ rest hpattern hreplacement (by rw [heq])
    simp only [hnone]

/-! ## Tokens -/

/-- A substitution as it is written. -/
def substText (d : Char) (pattern replacement flags : Text) : Text :=
  's' :: d :: (pattern ++ d :: (replacement ++ d :: flags))

/-- A match as it is written with a delimiter of choice. -/
def matchText (d : Char) (pattern flags : Text) : Text := 'm' :: d :: (pattern ++ d :: flags)

/-- A match as it is written between slashes. -/
def slashText (pattern flags : Text) : Text := '/' :: (pattern ++ '/' :: flags)

/-- A text in front of another one is read as one token, wherever it begins, and the lexer goes on
right behind it. -/
def ReadsAs (text : Text) (t : Token) (after : Text) : Prop :=
  ∀ column, tokensFrom column (text ++ after) =
    (tokensFrom (column + text.length) after).map (Tokens.behind [⟨t, column⟩])

theorem readsAs_of_scan {c : Char} {cs after : Text} {t : Token} (hc : isBlank c = false)
    (hs : scan c (cs ++ after) = .ok (t, after)) : ReadsAs (c :: cs) t after := fun column => by
  have hplace : column + (c :: cs).length = column + 1 + cs.length := by
    rw [List.length_cons]
    omega
  rw [List.cons_append, tokensFrom_token_at hc hs, hplace]

/-- Texts of one length that are read as the same token are interchangeable. -/
theorem ReadsAs.tokensFrom_congr {a b after : Text} {t : Token} (ha : ReadsAs a t after)
    (hb : ReadsAs b t after) (hlength : a.length = b.length) (column : Nat) :
    tokensFrom column (a ++ after) = tokensFrom column (b ++ after) := by
  rw [ha, hb, hlength]

section

variable {P R F T : Text} (hd : isDelimiter d = true) (hP : Clean d P)
  (hF : ∀ c ∈ F, c.isAlpha = true) (hT : ∀ c ∈ T.head?, c.isAlpha = false)

include hd hP hF hT

theorem readsAs_substText (hR : Clean d R) : ReadsAs (substText d P R F) (.subst P R F) T := by
  refine readsAs_of_scan (by decide) ?_
  have hscan := scanSubst_of_clean (ne_backslash_of_isDelimiter hd) hP hR hF hT
  rw [List.cons_append, scan_s hd]
  simpa using hscan

theorem readsAs_matchText : ReadsAs (matchText d P F) (.matching P F) T := by
  refine readsAs_of_scan (by decide) ?_
  have hscan := scanMatch_of_clean (ne_backslash_of_isDelimiter hd) hP hF hT
  rw [List.cons_append, scan_m hd]
  simpa using hscan

theorem readsAs_slashText (hslash : d = '/') : ReadsAs (slashText P F) (.matching P F) T := by
  subst hslash
  refine readsAs_of_scan (by decide) ?_
  have hscan := scanMatch_of_clean (ne_backslash_of_isDelimiter hd) hP hF hT
  show scanMatch '/' _ = _
  simpa using hscan

end

/-- What is wrong where the lexer stands is wrong with the source, at the column of the character
that the lexer stands in front of. -/
theorem tokenize_eq_error {before rest : Text} {c : Char} {cause : Cause} {ts : List Placed}
    {place : Nat} (h : Reaches 1 (before ++ c :: rest) ts place (c :: rest))
    (hc : isBlank c = false) (hs : scan c rest = .error cause) :
    tokenize (before ++ c :: rest) = .error ⟨cause, before.length + 1⟩ := by
  obtain ⟨front, heq, hplace, -⟩ := h.exists_before
  obtain rfl := List.append_cancel_right heq
  rw [tokenize, h.fault hc hs, hplace, Nat.add_comm]

/-- Substitutions and matches are split at their unescaped delimiters, and the lexer goes on right
behind their flags. What is read does not depend on the delimiter. Where the lexer meets an opening
that clean and closed bodies do not follow, the source is refused at the column of its letter. -/
theorem regex_tokens_split_at_delimiters {d : Char} (hd : isDelimiter d = true) :
    (∀ P R F T, Clean d P → (∀ c ∈ F, c.isAlpha = true) → (∀ c ∈ T.head?, c.isAlpha = false) →
      (Clean d R → ReadsAs (substText d P R F) (.subst P R F) T) ∧
      ReadsAs (matchText d P F) (.matching P F) T ∧
      (d = '/' → ReadsAs (slashText P F) (.matching P F) T) ∧
      ∀ d', isDelimiter d' = true → Clean d' P →
        (Clean d R → Clean d' R →
          tokenize (substText d P R F ++ T) = tokenize (substText d' P R F ++ T)) ∧
        tokenize (matchText d P F ++ T) = tokenize (matchText d' P F ++ T)) ∧
    ∀ before rest ts place,
      (Reaches 1 (before ++ 's' :: d :: rest) ts place ('s' :: d :: rest) →
        (∀ P R T, Clean d P → Clean d R → rest ≠ P ++ d :: (R ++ d :: T)) →
        tokenize (before ++ 's' :: d :: rest) = .error ⟨.unclosed d, before.length + 1⟩) ∧
      (Reaches 1 (before ++ 'm' :: d :: rest) ts place ('m' :: d :: rest) →
        (∀ P T, Clean d P → rest ≠ P ++ d :: T) →
        tokenize (before ++ 'm' :: d :: rest) = .error ⟨.unclosed d, before.length + 1⟩) := by
  have hne := ne_backslash_of_isDelimiter hd
  refine ⟨fun P R F T hP hF hT => ?_, fun before rest ts place => ⟨fun h hopen => ?_,
    fun h hopen => ?_⟩⟩
  · have hsubst := fun hR => readsAs_substText (R := R) hd hP hF hT hR
    have hmatch := readsAs_matchText hd hP hF hT
    refine ⟨hsubst, hmatch, readsAs_slashText hd hP hF hT, fun d' hd' hP' => ⟨fun hR hR' => ?_, ?_⟩⟩
    · have hsubst' := readsAs_substText hd' hP' hF hT hR'
      exact (hsubst hR).tokensFrom_congr hsubst' (by simp [substText]) 1
    · have hmatch' := readsAs_matchText hd' hP' hF hT
      exact hmatch.tokensFrom_congr hmatch' (by simp [matchText]) 1
  · have hscan : scan 's' (d :: rest) = .error (.unclosed d) :=
      (scan_s hd rest).trans ((scanSubst_eq_error_iff hne).mpr hopen)
    exact tokenize_eq_error h (by decide) hscan
  · have hscan : scan 'm' (d :: rest) = .error (.unclosed d) :=
      (scan_m hd rest).trans ((scanMatch_eq_error_iff hne).mpr hopen)
    exact tokenize_eq_error h (by decide) hscan

/-- Semicolons as delimiters: one is escaped in the pattern, and the replacement ends in an escaped
backslash. Behind a statement, a body that ends in an escaped delimiter is not closed. -/
theorem regex_tokens_split_at_delimiters_semicolon :
    let P := ['a', '\\', ';', 'b']
    let R := ['c', '\\', '\\']
    let source := "last;s|a|b\\|".toList
    (Clean ';' P ∧ Clean ';' R ∧ Clean '|' P ∧ Clean '|' R) ∧
      ReadsAs (substText ';' P R ['g']) (.subst P R ['g']) " if 1".toList ∧
      tokenize (substText ';' P R ['g'] ++ " if 1".toList) =
        tokenize (substText '|' P R ['g'] ++ " if 1".toList) ∧
      Reaches 1 source [⟨.last, 1⟩, ⟨.semicolon, 5⟩] 6 "s|a|b\\|".toList ∧
      (∀ P R T, Clean '|' P → Clean '|' R → "a|b\\|".toList ≠ P ++ '|' :: (R ++ '|' :: T)) ∧
      tokenize source = .error ⟨.unclosed '|', 6⟩ := by
  intro P R source
  have hclean : Clean ';' P ∧ Clean ';' R ∧ Clean '|' P ∧ Clean '|' R := by
    have hP : ∀ d, d ≠ 'a' → d ≠ '\\' → d ≠ 'b' → Clean d P := fun d ha hc hb =>
      .char ha.symm (by decide) (.escape ';' (.char hb.symm (by decide) .nil))
    have hR : ∀ d, d ≠ 'c' → Clean d R := fun d hc => .char hc.symm (by decide) (.escape '\\' .nil)
    exact ⟨hP ';' (by decide) (by decide) (by decide), hR ';' (by decide),
      hP '|' (by decide) (by decide) (by decide), hR '|' (by decide)⟩
  obtain ⟨hP, hR, hP', hR'⟩ := id hclean
  obtain ⟨hsubst, -, -, hsame⟩ := (regex_tokens_split_at_delimiters (d := ';') (by decide)).1
    P R ['g'] " if 1".toList hP (List.forall_mem_singleton.mpr rfl) (by simp)
  have hlast : scan 'l' ("ast".toList ++ ";s|a|b\\|".toList) = .ok (.last, ";s|a|b\\|".toList) := rfl
  have hsemicolon : scan ';' ([] ++ "s|a|b\\|".toList) = .ok (.semicolon, "s|a|b\\|".toList) := rfl
  have hreaches : Reaches 1 source [⟨.last, 1⟩, ⟨.semicolon, 5⟩] 6 "s|a|b\\|".toList :=
    .token (by decide) hlast (.token (by decide) hsemicolon (.here 6 _))
  have hopen : ∀ P R T, Clean '|' P → Clean '|' R →
      "a|b\\|".toList ≠ P ++ '|' :: (R ++ '|' :: T) := by
    exact (scanSubst_eq_error_iff (by decide)).mp rfl
  have herror := ((regex_tokens_split_at_delimiters (d := '|') (by decide)).2 "last;".toList _ _ _).1
    hreaches hopen
  exact ⟨hclean, hsubst hR, (hsame '|' (by decide) hP').1 hR hR', hreaches, hopen, herror⟩

end TagEdit.Script
