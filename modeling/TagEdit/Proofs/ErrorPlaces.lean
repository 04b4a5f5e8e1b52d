import TagEdit.Proofs.Standing

/-!
# Where errors lie

An error in a source lies where the lexer stands: in front of the token that is at fault, or at the
end. A fault of a token is found there. The parser looks at columns only to report them, so what it
reports is a column that it was given.
-/

namespace TagEdit.Script

open Unicode

/-- The parser reports the column of a token, or the end. Were it another one, it could be moved
without moving any token, and so without changing what the parser returns. -/
theorem column_mem_starts {ts : Tokens} {e : SyntaxError}
    (h : statements ts.stop ts.list = .error e) : e.column ∈ ts.starts := by
  by_contra hnot
  let f : Nat → Nat := fun p => if p = e.column then p + 1 else p
  have hkept : ts.moved f = ts.moved id := Tokens.moved_congr fun p hp => by
    have hne : p ≠ e.column := fun heq => hnot (heq ▸ hp)
    simp [f, hne]
  have hsame : ts.moved id = ts := congrArg (Tokens.mk · ts.stop) (List.map_id ts.list)
  have hmoved := statements_moved (f := f) ts.stop ts.list
  have hlist : movedAll f ts.list = ts.list := congrArg Tokens.list (hkept.trans hsame)
  have hstop : f ts.stop = ts.stop := congrArg Tokens.stop (hkept.trans hsame)
  rw [hlist, hstop, h] at hmoved
  have hcolumn : e.column = f e.column := congrArg SyntaxError.column (Except.error.inj hmoved)
  simp [f] at hcolumn

/-- The lexer stands at a column of a source in front of a token, or at the end. -/
def Meets (source : Text) (place : Nat) : Prop :=
  ∃ ts rest, Reaches 1 source ts place rest ∧ ∀ c ∈ rest.head?, isBlank c = false

theorem meets_of_mem_starts {source : Text} {ts : Tokens} (h : tokenize source = .ok ts) {p : Nat}
    (hp : p ∈ ts.starts) : Meets source p := by
  obtain ⟨-, hend⟩ := reaches_of_ok h
  rcases List.mem_append.mp hp with hp | hp
  · obtain ⟨t, ht, rfl⟩ := List.mem_map.mp hp
    obtain ⟨us, vs, hsplit⟩ := List.append_of_mem ht
    rw [hsplit] at hend
    obtain ⟨c, after, hc, hreach⟩ := hend.at_token
    exact ⟨us, c :: after, hreach, by simpa using hc⟩
  · obtain rfl := List.mem_singleton.mp hp
    exact ⟨ts.list, [], hend, by simp⟩

theorem meets_of_parse {source : Text} {e : SyntaxError} (h : Script.parse source = .error e) :
    Meets source e.column := by
  unfold Script.parse at h
  rcases htokens : tokenize source with e' | ts
  · rw [htokens] at h
    cases h
    obtain ⟨ts, c, rest, hreach, hc, -⟩ := reaches_of_error htokens
    exact ⟨ts, c :: rest, hreach, by simpa using hc⟩
  · rw [htokens] at h
    exact meets_of_mem_starts htokens (column_mem_starts h)

/-- The tokens in front of a column are those that the lexer has read when it stands there. -/
theorem Reaches.filter_eq {source rest : Text} {ts : List Placed} {place : Nat} {us : Tokens}
    (h : Reaches 1 source ts place rest) (hus : tokenize source = .ok us) :
    us.list.filter (·.column < place) = ts := by
  rw [tokenize, h.tokensFrom_eq] at hus
  obtain ⟨vs, hvs, rfl⟩ := exists_of_map_eq_ok hus
  have hbefore : ∀ t ∈ ts, t.column < place := fun t ht =>
    (List.pairwise_append.mp h.starts_increase.1).2.2 _ (List.mem_map_of_mem ht) place (by simp)
  have hafter : ∀ t ∈ vs.list, ¬ t.column < place := fun t ht => Nat.not_lt.mpr
    (bounds_of_mem_starts hvs _ (List.mem_append_left _ (List.mem_map_of_mem ht))).1
  have hfront : ts.filter (·.column < place) = ts :=
    List.filter_eq_self.mpr fun t ht => decide_eq_true (hbefore t ht)
  have hrest : vs.list.filter (·.column < place) = [] :=
    List.filter_eq_nil_iff.mpr fun t ht => by simpa using hafter t ht
  rw [Tokens.behind, List.filter_append, hfront, hrest, List.append_nil]

/-- A source that is refused is refused at one of its columns, or right behind its end, and no blank
stands there. The text in front has tokens: those that the lexer had read. In a source that has
tokens their columns increase, up to the end. -/
theorem errors_lie_at_tokens (source : Text) :
    (∀ e, Script.parse source = .error e →
      (1 ≤ e.column ∧ e.column ≤ source.length + 1) ∧
      (e.column = source.length + 1 ∨
        ∃ c, source[e.column - 1]? = some c ∧ isBlank c = false) ∧
      ∃ ts, Reaches 1 source ts e.column (source.drop (e.column - 1)) ∧
        tokenize (source.take (e.column - 1)) = .ok ⟨ts, e.column⟩ ∧
        ∀ us, tokenize source = .ok us → us.list.filter (·.column < e.column) = ts) ∧
    ∀ ts, tokenize source = .ok ts →
      ts.starts.Pairwise (· < ·) ∧ ts.stop = source.length + 1 := by
  refine ⟨fun e he => ?_, fun ts hts => ?_⟩
  · obtain ⟨ts, rest, hreach, hrest⟩ := meets_of_parse he
    obtain ⟨before, rfl, hplace, htokens⟩ := hreach.exists_before
    have hlength : e.column - 1 = before.length := by omega
    rw [hlength, List.drop_left, List.take_left]
    refine ⟨?_, ?_, ts, hreach, htokens, fun us hus => hreach.filter_eq hus⟩
    · rw [List.length_append]
      omega
    · rcases rest with _ | ⟨c, rest⟩
      · left
        rw [List.append_nil]
        omega
      · exact .inr ⟨c, by simp, hrest c rfl⟩
  · obtain ⟨hstop, hend⟩ := reaches_of_ok hts
    exact ⟨hend.starts_increase.1, hstop.trans (Nat.add_comm _ _)⟩

/-- An unknown variable behind a statement and a wide blank: its name is at fault, and the text in
front of it keeps its tokens. -/
theorem errors_lie_at_tokens_variable :
    let source : Text := "last;".toList ++ Char.ofNat 0x3000 :: "$x = 'a'".toList
    let e : SyntaxError := ⟨.unknownVariable ['x'], 7⟩
    Script.parse source = .error e ∧ 7 ≤ source.length + 1 ∧
      (∃ c, source[6]? = some c ∧ isBlank c = false) ∧
      Reaches 1 source [⟨.last, 1⟩, ⟨.semicolon, 5⟩] 7 "$x = 'a'".toList ∧
      tokenize (source.take 6) = .ok ⟨[⟨.last, 1⟩, ⟨.semicolon, 5⟩], 7⟩ := by
  intro source e
  let us : Tokens := ⟨[⟨.last, 1⟩, ⟨.semicolon, 5⟩, ⟨.var ['x'], 7⟩, ⟨.assign, 10⟩,
    ⟨.plain ['a'], 12⟩], 15⟩
  have hus : tokenize source = .ok us := by decide +kernel
  have he : Script.parse source = .error e := by
    have hparse : Script.parse source = statements us.stop us.list := by
      rw [Script.parse, hus]
      rfl
    have hfirst : reading (statement us.stop us.list) = .ok (⟨.last, none⟩, us.list.drop 1) := by
      rw [reading_statement, reading_action]
      dsimp only [us]
      rw [Reading.next_ok, tailReading_guardTail]
      rfl
    have hsecond : reading (statement us.stop (us.list.drop 2)) = .error e := by
      rw [reading_statement, reading_action]
      rfl
    rw [hparse, statements_cons _ (by decide), hfirst]
    show (statements us.stop (us.list.drop 2)).map _ = _
    dsimp only [us, List.drop] at hsecond ⊢
    rw [statements_cons _ (by decide), hsecond]
    rfl
  obtain ⟨⟨-, hle⟩, hchar, ts, hreach, htokens, hread⟩ := (errors_lie_at_tokens source).1 e he
  obtain rfl : ts = [⟨.last, 1⟩, ⟨.semicolon, 5⟩] := (hread us hus).symm.trans (by decide)
  exact ⟨he, hle, hchar.resolve_left (by decide), hreach, htokens⟩

end TagEdit.Script
