import Mathlib.Data.List.Basic
import Mathlib.Data.List.TakeWhile
import TagEdit.Script.Scan

/-!
# Where tokens end

A token is read off the front of a text. What stands behind it matters only where it begins: another
text may take its place that begins alike, or with a character that separates, which continues no
name, number, flags or operator. The one exception is a lone `s` or `m`, for which that character may
be a delimiter.
-/

namespace TagEdit.Script

open Unicode

/-! ## Separating characters -/

/-- A character that continues no token. -/
structure Separates (x : Char) : Prop where
  notName : isNameChar x = false
  notDigit : x.isDigit = false
  notAlpha : x.isAlpha = false
  notSign : x ≠ '=' ∧ x ≠ '~' ∧ x ≠ '.'

theorem separates_semicolon : Separates ';' := ⟨by decide, by decide, by decide, by decide⟩

theorem span_append {α : Type} {p : α → Bool} {l m : List α} (hl : ∀ x ∈ l, p x = true)
    (hm : ∀ x ∈ m.head?, p x = false) : (l ++ m).takeWhile p = l ∧ (l ++ m).dropWhile p = m := by
  rw [List.takeWhile_append_of_pos hl, List.dropWhile_append_of_pos hl]
  rcases m with _ | ⟨x, m⟩
  · simp
  · have hx := hm x rfl
    simp [hx]

theorem not_of_mem_head?_dropWhile {α : Type} {p : α → Bool} {l : List α} {x : α}
    (hx : x ∈ (l.dropWhile p).head?) : p x = false := by
  have hstop := List.head?_dropWhile_not p l
  rw [Option.mem_def] at hx
  rwa [hx] at hstop

/-! ## Delimiters -/

theorem isAlphanumeric_of_isPunctuation {c : Char} (h : isPunctuation c = true) :
    isAlphanumeric c = false := by
  have hall : ∀ n : Fin 128, isPunctuation (Char.ofNat n) = true →
      isAlphanumeric (Char.ofNat n) = false := by decide +kernel
  have hlt : c.toNat < 128 := by
    simp only [isPunctuation, Bool.or_eq_true, Bool.and_eq_true, decide_eq_true_eq] at h
    omega
  have hc := hall ⟨c.toNat, hlt⟩
  rw [Char.ofNat_toNat] at hc
  exact hc h

theorem isPunctuation_of_isDelimiter {d : Char} (h : isDelimiter d = true) :
    isPunctuation d = true := by
  simp only [isDelimiter, Bool.and_eq_true] at h
  exact h.1.1.1

theorem ne_backslash_of_isDelimiter {d : Char} (h : isDelimiter d = true) : d ≠ '\\' := by
  rintro rfl
  cases h

theorem isNameChar_of_isDelimiter {d : Char} (h : isDelimiter d = true) : isNameChar d = false := by
  have halpha := isAlphanumeric_of_isPunctuation (isPunctuation_of_isDelimiter h)
  have hne : d ≠ '_' := by
    rintro rfl
    cases h
  rw [isNameChar, halpha, Bool.false_or]
  exact beq_eq_false_iff_ne.mpr hne

/-! ## Delimited bodies -/

theorem readBody_delimiter (d : Char) (cs : Text) : readBody d (d :: cs) = some ([], cs) := by
  rw [readBody.eq_def]
  exact if_pos rfl

theorem readBody_escape {d : Char} (hd : d ≠ '\\') (e : Char) (cs : Text) :
    readBody d ('\\' :: e :: cs) = (readBody d cs).map fun r => ('\\' :: e :: r.1, r.2) := by
  rw [readBody.eq_def]
  exact if_neg hd.symm

theorem readBody_other {c d : Char} (hd : c ≠ d) (hc : c ≠ '\\') (cs : Text) :
    readBody d (c :: cs) = (readBody d cs).map fun r => (c :: r.1, r.2) := by
  rw [readBody.eq_def]
  simp only [if_neg hd, if_neg hc]

/-- A body that a delimiter ends only behind it: units of one character other than a backslash
and the delimiter, or of a backslash and any character. -/
inductive Clean (d : Char) : Text → Prop where
  | nil : Clean d []
  | char {c : Char} {cs : Text} : c ≠ d → c ≠ '\\' → Clean d cs → Clean d (c :: cs)
  | escape (c : Char) {cs : Text} : Clean d cs → Clean d ('\\' :: c :: cs)

theorem Clean.append {d : Char} {as bs : Text} (ha : Clean d as) (hb : Clean d bs) :
    Clean d (as ++ bs) := by
  induction ha with
  | nil => exact hb
  | char hd hc _ ih => exact .char hd hc ih
  | escape c _ ih => exact .escape c ih

theorem clean_of_forall {d : Char} {cs : Text} (h : ∀ c ∈ cs, c ≠ d ∧ c ≠ '\\') : Clean d cs := by
  induction cs with
  | nil => exact .nil
  | cons c cs ih =>
    have hc := h c List.mem_cons_self
    exact .char hc.1 hc.2 (ih fun a ha => h a (List.mem_cons_of_mem _ ha))

theorem Clean.readBody {d : Char} (hd : d ≠ '\\') {body : Text} (h : Clean d body)
    (rest : Text) : readBody d (body ++ d :: rest) = some (body, rest) := by
  induction h with
  | nil => exact readBody_delimiter d rest
  | char hne hc _ ih =>
    rw [List.cons_append, readBody_other hne hc, ih]
    rfl
  | escape c _ ih =>
    rw [List.cons_append, List.cons_append, readBody_escape hd, ih]
    rfl

theorem readQuoted_close (cs : Text) : readQuoted ('\'' :: cs) = some ([], cs) := by
  rw [readQuoted.eq_def]
  exact if_pos rfl

theorem readQuoted_escape {e : Char} (he : e = '\'' ∨ e = '\\') (cs : Text) :
    readQuoted ('\\' :: e :: cs) = (readQuoted cs).map fun r => (e :: r.1, r.2) := by
  rcases he with rfl | rfl <;> rw [readQuoted.eq_def] <;> rfl

theorem readQuoted_backslash {c : Char} (hq : c ≠ '\'') (hc : c ≠ '\\') (cs : Text) :
    readQuoted ('\\' :: c :: cs) = (readQuoted (c :: cs)).map fun r => ('\\' :: r.1, r.2) := by
  rw [readQuoted.eq_def]
  simp [hq, hc]

theorem readQuoted_other {c : Char} (hq : c ≠ '\'') (hc : c ≠ '\\') (cs : Text) :
    readQuoted (c :: cs) = (readQuoted cs).map fun r => (c :: r.1, r.2) := by
  rw [readQuoted.eq_def]
  simp only [if_neg hq, if_neg hc]

variable {x : Char} {cs rest m more : Text} {t : Token}

/-- A body that is read off a text and leaves the rest is read again if any other text follows. -/
def ReadsOff (read : Text → Option (Text × Text)) (cs body rest : Text) : Prop :=
  ∃ lexeme, cs = lexeme ++ rest ∧ ∀ m, read (lexeme ++ m) = some (body, m)

/-- Characters in front that put something in front of the body. -/
theorem ReadsOff.of_map {read : Text → Option (Text × Text)} {body : Text} (front added : Text)
    (hread : ∀ m, read (front ++ m) = (read m).map fun r => (added ++ r.1, r.2))
    (h : ((read cs).map fun r => (added ++ r.1, r.2)) = some (body, rest))
    (ih : ∀ {b r}, read cs = some (b, r) → ReadsOff read cs b r) :
    ReadsOff read (front ++ cs) body rest := by
  obtain ⟨⟨b, r⟩, hr, heq⟩ := Option.map_eq_some_iff.mp h
  cases heq
  obtain ⟨lexeme, rfl, hlexeme⟩ := ih hr
  refine ⟨front ++ lexeme, by rw [List.append_assoc], fun m => ?_⟩
  rw [List.append_assoc, hread, hlexeme]
  rfl

theorem readsOff_readBody {d : Char} {body : Text} (h : readBody d cs = some (body, rest)) :
    ReadsOff (readBody d) cs body rest := by
  fun_induction readBody d cs generalizing body rest with
  | case1 => cases h
  | case2 cs =>
    cases h
    exact ⟨[d], rfl, readBody_delimiter d⟩
  | case3 => cases h
  | case4 e cs hd ih => exact .of_map ['\\', e] ['\\', e] (readBody_escape (Ne.symm hd) e) h ih
  | case5 c cs hd hc ih => exact .of_map [c] [c] (readBody_other hd hc) h ih

theorem readsOff_readQuoted {text : Text} (h : readQuoted cs = some (text, rest)) :
    ReadsOff readQuoted cs text rest := by
  fun_induction readQuoted cs generalizing text rest with
  | case1 => cases h
  | case2 cs =>
    cases h
    exact ⟨['\''], rfl, readQuoted_close⟩
  | case3 cs _ ih => exact .of_map ['\\', '\''] ['\''] (readQuoted_escape (.inl rfl)) h ih
  | case4 cs _ ih => exact .of_map ['\\', '\\'] ['\\'] (readQuoted_escape (.inr rfl)) h ih
  | case5 cs hq hb _ ih =>
    -- The backslash stands for itself because of the character behind it, which is read next.
    obtain ⟨⟨b, r⟩, hr, heq⟩ := Option.map_eq_some_iff.mp h
    cases heq
    obtain ⟨lexeme, rfl, hread⟩ := ih hr
    rcases lexeme with _ | ⟨c, lexeme⟩
    · cases hread []
    have hq : c ≠ '\'' := fun hc => hq (lexeme ++ r) (by rw [hc]; rfl)
    have hb : c ≠ '\\' := fun hc => hb (lexeme ++ r) (by rw [hc]; rfl)
    refine ⟨'\\' :: c :: lexeme, rfl, fun m => ?_⟩
    rw [List.cons_append, List.cons_append, readQuoted_backslash hq hb, ← List.cons_append, hread]
    rfl
  | case6 c cs hq hb ih => exact .of_map [c] [c] (readQuoted_other hq hb) h ih

/-! ## Tokens of known forms -/

theorem scanVar_bare {name : Text} (hne : name ≠ []) (hname : ∀ c ∈ name, isNameChar c = true)
    (hm : ∀ x ∈ m.head?, isNameChar x = false) : scanVar (name ++ m) = .ok (.var name, m) := by
  obtain ⟨htake, hdrop⟩ := span_append hname hm
  rcases name with _ | ⟨c, name⟩
  · exact absurd rfl hne
  have hbrace : c ≠ '{' := by
    rintro rfl
    exact absurd (hname '{' List.mem_cons_self) (by decide)
  unfold scanVar
  split
  · rename_i heq
    exact absurd (List.cons.inj heq).1 hbrace
  · rw [htake, hdrop]
    rfl

theorem scanVar_braced {name : Text} (hne : name ≠ []) (hname : ∀ c ∈ name, isNameChar c = true)
    (m : Text) : scanVar ('{' :: (name ++ '}' :: m)) = .ok (.var name, m) := by
  obtain ⟨htake, hdrop⟩ := span_append hname (m := '}' :: m) (by simp; decide)
  simp only [scanVar, htake, hdrop, List.isEmpty_eq_false_iff.mpr hne, Bool.false_eq_true, if_false]

/-- Whether a point and a digit follow. -/
def fractionFollows : Text → Bool
  | '.' :: c :: _ => c.isDigit
  | _ => false

theorem scanInt_eq (cs : Text) :
    scanInt cs =
      if fractionFollows (cs.dropWhile Char.isDigit) then .error .decimalNumber
      else if maxInt < Text.ofDigits (cs.takeWhile Char.isDigit) then
        .error (.integerTooLarge (cs.takeWhile Char.isDigit))
      else .ok (.int (Text.ofDigits (cs.takeWhile Char.isDigit)), cs.dropWhile Char.isDigit) := rfl

/-- A substitution with bodies that only their delimiters end, and text behind its flags. -/
theorem scanSubst_of_clean {d : Char} (hd : d ≠ '\\') {pattern replacement flags more : Text}
    (hpattern : Clean d pattern) (hreplacement : Clean d replacement)
    (hflags : ∀ c ∈ flags, c.isAlpha = true) (hmore : ∀ c ∈ more.head?, c.isAlpha = false) :
    scanSubst d (pattern ++ d :: (replacement ++ d :: (flags ++ more))) =
      .ok (.subst pattern replacement flags, more) := by
  obtain ⟨htake, hdrop⟩ := span_append hflags hmore
  simp only [scanSubst, hpattern.readBody hd, hreplacement.readBody hd, htake, hdrop]

theorem scanMatch_of_clean {d : Char} (hd : d ≠ '\\') {pattern flags more : Text}
    (hpattern : Clean d pattern) (hflags : ∀ c ∈ flags, c.isAlpha = true)
    (hmore : ∀ c ∈ more.head?, c.isAlpha = false) :
    scanMatch d (pattern ++ d :: (flags ++ more)) = .ok (.matching pattern flags, more) := by
  obtain ⟨htake, hdrop⟩ := span_append hflags hmore
  simp only [scanMatch, hpattern.readBody hd, htake, hdrop]

theorem isNameChar_of_mem_word {word : Text} (hword : word = ['s'] ∨ word = ['m']) :
    ∀ c ∈ word, isNameChar c = true := by
  rcases hword with rfl | rfl <;> simp <;> decide

/-- A lone `s` or `m` in front of a delimiter opens bodies. -/
theorem scanWord_open {word : Text} (hword : word = ['s'] ∨ word = ['m']) {d : Char}
    (hd : isDelimiter d = true) (m : Text) :
    scanWord (word ++ d :: m) = if word = ['s'] then scanSubst d m else scanMatch d m := by
  obtain ⟨htake, hdrop⟩ := span_append (m := d :: m) (isNameChar_of_mem_word hword)
    (by simpa using isNameChar_of_isDelimiter hd)
  simp only [scanWord, htake, hdrop, if_pos hword, if_pos hd]

/-- A lone `s` or `m` in front of a character that opens no bodies is a name. -/
theorem scanWord_lone {word : Text} (hword : word = ['s'] ∨ word = ['m'])
    (hname : ∀ x ∈ m.head?, isNameChar x = false)
    (hopen : ∀ x ∈ m.head?, (isDelimiter x || isBracket x) = false) :
    scanWord (word ++ m) = .ok (.ident word, m) := by
  obtain ⟨htake, hdrop⟩ := span_append (isNameChar_of_mem_word hword) hname
  simp only [scanWord, htake, hdrop, if_pos hword]
  rcases m with _ | ⟨x, m⟩
  · rfl
  · obtain ⟨hd, hb⟩ := Bool.or_eq_false_iff.mp (hopen x rfl)
    simp only [hd, hb, Bool.false_eq_true, if_false]

theorem scan_s {d : Char} (hd : isDelimiter d = true) (cs : Text) :
    scan 's' (d :: cs) = scanSubst d cs := scanWord_open (.inl rfl) hd cs

theorem scan_m {d : Char} (hd : isDelimiter d = true) (cs : Text) :
    scan 'm' (d :: cs) = scanMatch d cs := scanWord_open (.inr rfl) hd cs

theorem scan_subst {d : Char} (hd : isDelimiter d = true) {pattern replacement flags : Text}
    (hpattern : Clean d pattern) (hreplacement : Clean d replacement)
    (hflags : ∀ c ∈ flags, c.isAlpha = true) :
    scan 's' (d :: (pattern ++ d :: (replacement ++ d :: flags))) =
      .ok (.subst pattern replacement flags, []) := by
  have hend : ∀ c ∈ ([] : Text).head?, c.isAlpha = false := nofun
  have hscan := scanSubst_of_clean (ne_backslash_of_isDelimiter hd) hpattern hreplacement hflags hend
  rw [List.append_nil] at hscan
  rw [scan_s hd, hscan]

/-! ## What may follow a token -/

/-- A token after which a delimiter would be taken for the opening of bodies. -/
def Token.Opens (t : Token) : Prop := t = .ident ['s'] ∨ t = .ident ['m']

theorem opens_of_word {word : Text} (hword : word = ['s'] ∨ word = ['m']) :
    Token.Opens (.ident word) := hword.imp (congrArg Token.ident) (congrArg Token.ident)

/-- What may stand behind a token in place of what stands there: it begins alike or with a
separating character, opens no bodies, and does not go on like a fraction. -/
structure Follows (t : Token) (rest m : Text) : Prop where
  head : ∀ x ∈ m.head?, Separates x ∨ x ∈ rest.head?
  opening : t.Opens → ∀ x ∈ m.head?, (isDelimiter x || isBracket x) = false ∨ x ∈ rest.head?
  fraction : fractionFollows rest = false → fractionFollows m = false

theorem fractionFollows_append (hx : Separates x) (cs more : Text) :
    fractionFollows (cs ++ x :: more) = fractionFollows cs := by
  rcases cs with _ | ⟨a, _ | ⟨b, l⟩⟩
  · simp [fractionFollows, hx.notSign.2.2]
  · by_cases ha : a = '.' <;> simp [fractionFollows, ha, hx.notDigit]
  · by_cases ha : a = '.' <;> simp [fractionFollows, ha]

theorem fractionFollows_front {l after : Text} (h : fractionFollows (l ++ after) = false) :
    fractionFollows l = false := by
  rcases l with _ | ⟨a, _ | ⟨b, l⟩⟩
  · rfl
  · by_cases ha : a = '.' <;> simp [fractionFollows, ha]
  · by_cases ha : a = '.' <;> simp_all [fractionFollows]

/-- A text begins as it does if it is cut off further on. -/
theorem follows_front (t : Token) (l after : Text) : Follows t (l ++ after) l where
  head _ hx := .inr (List.mem_head?_append_of_mem_head? hx)
  opening _ _ hx := .inr (List.mem_head?_append_of_mem_head? hx)
  fraction := fractionFollows_front

/-- A text begins as it does if it goes on further on with a separating character. -/
theorem follows_separated (hx : Separates x)
    (hopen : t.Opens → (isDelimiter x || isBracket x) = false) (l after more : Text) :
    Follows t (l ++ after) (l ++ x :: more) := by
  have hhead : ∀ y ∈ (l ++ x :: more).head?, y = x ∨ y ∈ (l ++ after).head? := by
    rcases l with _ | ⟨a, l⟩
    · simp [eq_comm]
    · exact fun y hy => .inr hy
  refine ⟨fun y hy => ?_, fun ht y hy => ?_, fun h => ?_⟩
  · exact (hhead y hy).imp_left fun (hyx : y = x) => hyx ▸ hx
  · exact (hhead y hy).imp_left fun (hyx : y = x) => hyx ▸ hopen ht
  · rw [fractionFollows_append hx]
    exact fractionFollows_front h

/-- What the text behind a token does not begin with, a text in its place does not either. -/
theorem Follows.not_head (h : Follows t rest m) {p : Char → Bool}
    (hp : ∀ x, Separates x → p x = false) (hrest : ∀ x ∈ rest.head?, p x = false) :
    ∀ x ∈ m.head?, p x = false := fun x hx => (h.head x hx).elim (hp x) (hrest x)

theorem Follows.not_opening (h : Follows t rest m) (ht : t.Opens)
    (hrest : ∀ x ∈ rest.head?, (isDelimiter x || isBracket x) = false) :
    ∀ x ∈ m.head?, (isDelimiter x || isBracket x) = false :=
  fun x hx => (h.opening ht x hx).elim id (hrest x)

theorem Follows.ne_cons {c : Char} (h : Follows t rest m) (hc : c = '=' ∨ c = '~')
    (hrest : ∀ l, rest ≠ c :: l) (l : Text) : m ≠ c :: l := by
  rintro rfl
  rcases h.head c rfl with hx | hx
  · exact hc.elim hx.notSign.1 hx.notSign.2.1
  · obtain ⟨l', rfl⟩ := List.head?_eq_some_iff.mp hx
    exact hrest l' rfl

/-- A run of characters that has ended with a token ends there again. -/
theorem Follows.span {p : Char → Bool} (hp : ∀ x, Separates x → p x = false)
    (h : Follows t (cs.dropWhile p) m) : (cs.takeWhile p ++ m).takeWhile p = cs.takeWhile p ∧
      (cs.takeWhile p ++ m).dropWhile p = m :=
  span_append (fun _ => List.mem_takeWhile_imp)
    (h.not_head hp fun _ => not_of_mem_head?_dropWhile)

/-! ## One token -/

/-- A token that is read off a text and leaves the rest is read again if another text follows it
in place of the rest. -/
def EndsFor (read : Text → Except Cause (Token × Text)) (cs : Text) (t : Token) (rest : Text) :
    Prop :=
  ∃ lexeme, cs = lexeme ++ rest ∧ ∀ m, Follows t rest m → read (lexeme ++ m) = .ok (t, m)

/-- A token that is one body has ended with it, whatever follows. -/
theorem ReadsOff.endsFor {reader : Text → Option (Text × Text)} {body : Text}
    {read : Text → Except Cause (Token × Text)} (h : ReadsOff reader cs body rest)
    (hread : ∀ {l m}, reader l = some (body, m) → read l = .ok (t, m)) : EndsFor read cs t rest := by
  obtain ⟨lexeme, rfl, hlexeme⟩ := h
  exact ⟨lexeme, rfl, fun m _ => hread (hlexeme m)⟩

theorem endsFor_scanVar (h : scanVar cs = .ok (t, rest)) : EndsFor scanVar cs t rest := by
  unfold scanVar at h
  split at h
  · rename_i cs
    dsimp only at h
    split at h
    · rename_i hafter
      split at h
      · cases h
      rename_i hne
      cases h
      have hcs : cs = cs.takeWhile isNameChar ++ '}' :: rest := by
        rw [← hafter, List.takeWhile_append_dropWhile]
      refine ⟨'{' :: (cs.takeWhile isNameChar ++ ['}']), ?_, fun m _ => ?_⟩
      · rw [List.cons_append, List.append_assoc, List.singleton_append, ← hcs]
      · rw [List.cons_append, List.append_assoc, List.singleton_append]
        exact scanVar_braced (by simpa using hne) (fun c hc => List.mem_takeWhile_imp hc) m
    · cases h
  · dsimp only at h
    split at h
    · cases h
    rename_i hne
    cases h
    refine ⟨cs.takeWhile isNameChar, by rw [List.takeWhile_append_dropWhile], fun m hm => ?_⟩
    refine scanVar_bare (by simpa using hne) (fun c hc => List.mem_takeWhile_imp hc) ?_
    exact hm.not_head (fun _ => Separates.notName) fun _ => not_of_mem_head?_dropWhile

theorem endsFor_scanInt (h : scanInt cs = .ok (t, rest)) : EndsFor scanInt cs t rest := by
  rw [scanInt_eq] at h
  split at h
  · cases h
  rename_i hfraction
  split at h
  · cases h
  rename_i hsize
  cases h
  refine ⟨cs.takeWhile Char.isDigit, by rw [List.takeWhile_append_dropWhile], fun m hm => ?_⟩
  obtain ⟨htake, hdrop⟩ := hm.span fun _ => Separates.notDigit
  rw [scanInt_eq, htake, hdrop, hm.fraction (by simpa using hfraction), if_neg Bool.false_ne_true,
    if_neg hsize]

theorem endsFor_scanMatch {d : Char} (h : scanMatch d cs = .ok (t, rest)) :
    EndsFor (scanMatch d) cs t rest := by
  unfold scanMatch at h
  split at h
  · cases h
  rename_i pattern after hp
  cases h
  obtain ⟨body, rfl, hbody⟩ := readsOff_readBody hp
  refine ⟨body ++ after.takeWhile Char.isAlpha, ?_, fun m hm => ?_⟩
  · rw [List.append_assoc, List.takeWhile_append_dropWhile]
  obtain ⟨htake, hdrop⟩ := hm.span fun _ => Separates.notAlpha
  simp only [scanMatch, List.append_assoc, hbody, htake, hdrop]

theorem endsFor_scanSubst {d : Char} (h : scanSubst d cs = .ok (t, rest)) :
    EndsFor (scanSubst d) cs t rest := by
  unfold scanSubst at h
  split at h
  · cases h
  rename_i pattern between hp
  split at h
  · cases h
  rename_i replacement after hr
  cases h
  obtain ⟨body, rfl, hbody⟩ := readsOff_readBody hp
  obtain ⟨body', rfl, hbody'⟩ := readsOff_readBody hr
  refine ⟨body ++ (body' ++ after.takeWhile Char.isAlpha), ?_, fun m hm => ?_⟩
  · rw [List.append_assoc, List.append_assoc, List.takeWhile_append_dropWhile]
  obtain ⟨htake, hdrop⟩ := hm.span fun _ => Separates.notAlpha
  simp only [scanSubst, List.append_assoc, hbody, hbody', htake, hdrop]

theorem EndsFor.of_eq {read read' : Text → Except Cause (Token × Text)} (front : Text)
    (hread : ∀ m, read (front ++ m) = read' m) (h : EndsFor read' cs t rest) :
    EndsFor read (front ++ cs) t rest := by
  obtain ⟨lexeme, rfl, hlexeme⟩ := h
  refine ⟨front ++ lexeme, by rw [List.append_assoc], fun m hm => ?_⟩
  rw [List.append_assoc, hread, hlexeme m hm]

theorem endsFor_scanWord (h : scanWord cs = .ok (t, rest)) : EndsFor scanWord cs t rest := by
  have hsplit := List.takeWhile_append_dropWhile (p := isNameChar) (l := cs)
  have hname : ∀ {t m}, Follows t (cs.dropWhile isNameChar) m →
      ∀ x ∈ m.head?, isNameChar x = false :=
    fun hm => hm.not_head (fun _ => Separates.notName) fun _ => not_of_mem_head?_dropWhile
  unfold scanWord at h
  dsimp only at h
  split at h
  case isFalse hword =>
    cases h
    refine ⟨_, hsplit.symm, fun m hm => ?_⟩
    obtain ⟨htake, hdrop⟩ := span_append (l := cs.takeWhile isNameChar)
      (fun _ => List.mem_takeWhile_imp) (hname hm)
    simp only [scanWord, htake, hdrop, if_neg hword]
  case isTrue hword =>
    have hlone : (∀ x ∈ (cs.dropWhile isNameChar).head?, (isDelimiter x || isBracket x) = false) →
        EndsFor scanWord cs (.ident (cs.takeWhile isNameChar)) (cs.dropWhile isNameChar) :=
      fun hopen => ⟨_, hsplit.symm, fun m hm => scanWord_lone hword (hname hm)
        (hm.not_opening (opens_of_word hword) hopen)⟩
    split at h
    · rename_i hrest
      rw [hrest] at hlone
      cases h
      exact hlone (by simp)
    · rename_i d body hrest
      rw [hrest] at hlone hsplit
      split at h
      · rename_i hd
        have hopen := fun m => scanWord_open hword hd m
        rw [← hsplit, ← List.singleton_append, ← List.append_assoc]
        split at h
        · rename_i hs
          exact .of_eq _ (fun m => by simpa [hs] using hopen m) (endsFor_scanSubst h)
        · rename_i hs
          exact .of_eq _ (fun m => by simpa [hs] using hopen m) (endsFor_scanMatch h)
      · rename_i hd
        split at h
        · cases h
        · rename_i hb
          cases h
          exact hlone (by simp [hd, hb])

theorem EndsFor.of_cons {read : Text → Except Cause (Token × Text)} {c : Char}
    (h : EndsFor read (c :: cs) t rest) (hle : rest.length ≤ cs.length) :
    EndsFor (fun m => read (c :: m)) cs t rest := by
  obtain ⟨lexeme, heq, hlexeme⟩ := h
  rcases lexeme with _ | ⟨a, lexeme⟩
  · have hlength := congrArg List.length heq
    simp only [List.nil_append, List.length_cons] at hlength
    omega
  · obtain ⟨rfl, rfl⟩ := List.cons.inj heq
    exact ⟨lexeme, rfl, hlexeme⟩

/-- A sign of one character, where a second one would have made another sign. -/
theorem endsFor_sign {read : Text → Except Cause (Token × Text)} (ds : List Char)
    (hsign : ∀ d ∈ ds, d = '=' ∨ d = '~') (hcs : ∀ d ∈ ds, ∀ l, cs ≠ d :: l)
    (hread : ∀ m, (∀ d ∈ ds, ∀ l, m ≠ d :: l) → read m = .ok (t, m)) : EndsFor read cs t cs :=
  ⟨[], rfl, fun m hm => hread m fun d hd => hm.ne_cons (hsign d hd) (hcs d hd)⟩

/-- A token has ended for good: what takes the place of the text behind it does not change it. -/
theorem endsFor_scan {c : Char} (h : scan c cs = .ok (t, rest)) : EndsFor (scan c) cs t rest := by
  have hle := length_scan_le h
  unfold scan at h
  split at h
  case h_11 => exact endsFor_scanVar h
  case h_12 =>
    split at h
    · cases h
    · rename_i text after hq
      cases h
      exact (readsOff_readQuoted hq).endsFor fun hread => by simp only [scan, hread]
  case h_13 =>
    split at h
    · cases h
    · rename_i body after hb
      cases h
      exact (readsOff_readBody hb).endsFor fun hread => by simp only [scan, hread]
  case h_14 => exact endsFor_scanMatch h
  case h_15 =>
    split at h
    · rename_i hc
      refine ((endsFor_scanInt h).of_cons hle).of_eq [] fun m => ?_
      unfold scan
      simp only [List.nil_append, hc, if_true]
    · rename_i hc
      split at h
      · rename_i hword
        refine ((endsFor_scanWord h).of_cons hle).of_eq [] fun m => ?_
        unfold scan
        simp only [List.nil_append, hc, hword, if_true]
        rfl
      · cases h
  case h_1 | h_2 | h_3 =>
    cases h
    exact ⟨[], rfl, fun _ _ => rfl⟩
  case h_9 | h_10 =>
    split at h
    · cases h
      exact ⟨[_], rfl, fun _ _ => rfl⟩
    · cases h
  case h_5 | h_6 =>
    split at h
    · cases h
      exact ⟨[_], rfl, fun _ _ => rfl⟩
    · cases h
      exact ⟨[_], rfl, fun _ _ => rfl⟩
    · rename_i heq htilde
      cases h
      refine endsFor_sign ['=', '~'] (by simp) (by simp; exact ⟨heq, htilde⟩)
        fun m hm => ?_
      rcases m with _ | ⟨a, m⟩
      · rfl
      · simp at hm
        simp [scan, hm]
  case h_4 | h_7 | h_8 =>
    split at h
    · cases h
      exact ⟨[_], rfl, fun _ _ => rfl⟩
    · rename_i heq
      cases h
      refine endsFor_sign ['='] (by simp) (by simp; exact heq) fun m hm => ?_
      rcases m with _ | ⟨a, m⟩
      · rfl
      · simp at hm
        simp [scan, hm]

/-- A token stays the same when text is appended behind a separating character. -/
theorem scan_append {c : Char} (hx : Separates x)
    (hopen : t.Opens → (isDelimiter x || isBracket x) = false)
    (h : scan c cs = .ok (t, rest)) : scan c (cs ++ x :: more) = .ok (t, rest ++ x :: more) := by
  obtain ⟨lexeme, rfl, hread⟩ := endsFor_scan h
  have hfollows := follows_separated hx hopen rest [] more
  rw [List.append_nil] at hfollows
  rw [List.append_assoc, hread _ hfollows]

end TagEdit.Script
