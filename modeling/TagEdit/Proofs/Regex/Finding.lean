import TagEdit.Proofs.Regex.Numbering
import TagEdit.Proofs.Regex.Searching

/-!
# The matches in a text

What `find?` and `allMatches` return, in terms of what a node matches. `Successive` says of a list
of matches that each is leftmost behind the one before, that an empty match does not directly follow
another match, and that there is no further match.
-/

namespace TagEdit.Regex

variable {n : Node} {t : Text} {i j : Nat}

/-! ## Places in a text -/

/-- The place behind a number of characters. -/
def place (t : Text) (i : Nat) : Cursor := .advanceBy i (.atStart t)

theorem rest_place (t : Text) (i : Nat) : (place t i).rest = t.drop i := Cursor.rest_advanceBy i _

theorem length_rest_place (t : Text) (i : Nat) : (place t i).rest.length = t.length - i := by
  rw [rest_place, List.length_drop]

theorem pos_place (h : i ≤ t.length) : (place t i).pos = i :=
  (Cursor.pos_advanceBy (k := .atStart t) h).trans (Nat.zero_add i)

theorem advanceBy_place (t : Text) (i j : Nat) : (place t i).advanceBy j = place t (i + j) :=
  (Cursor.advanceBy_add i j _).symm

/-! ## What a match does -/

/-- Some characters have been passed, and places noted that are not the ends of the whole match. -/
def Moves (a b : Spot) : Prop :=
  ∃ d ≤ a.1.rest.length, ∃ noted : Saves,
    b = (a.1.advanceBy d, noted ++ a.2) ∧ ∀ e ∈ noted, 2 ≤ e.1

theorem Moves.refl (a : Spot) : Moves a a := ⟨0, Nat.zero_le _, [], rfl, by simp⟩

theorem Moves.trans {a b c : Spot} (hab : Moves a b) (hbc : Moves b c) : Moves a c := by
  obtain ⟨d, hd, noted, rfl, hnoted⟩ := hab
  obtain ⟨e, he, more, rfl, hmore⟩ := hbc
  rw [Cursor.rest_advanceBy, List.length_drop] at he
  refine ⟨d + e, by omega, more ++ noted, ?_, List.forall_mem_append.mpr ⟨hmore, hnoted⟩⟩
  rw [Cursor.advanceBy_add, List.append_assoc]

/-- Noting a place of a group. -/
theorem Moves.note {slot : Nat} (h : 2 ≤ slot) (a : Spot) : Moves a (a.1, (slot, a.1.pos) :: a.2) :=
  ⟨0, Nat.zero_le _, [(slot, a.1.pos)], rfl, by simpa using h⟩

theorem Moves.power {R : Spot → Spot → Prop} (hR : ∀ a b, R a b → Moves a b) {k : Nat} {a b : Spot}
    (h : Regex.power R k a b) : Moves a b := by
  induction k generalizing a with
  | zero => exact h ▸ .refl a
  | succ k ih =>
    obtain ⟨c, hac, hcb⟩ := h
    exact (hR a c hac).trans (ih hcb)

namespace Node

mutual

theorem moves_of_matches : (n : Node) → n.Numbered → {a b : Spot} → n.Matches a b → Moves a b
  | .empty, _, a, _, h => h ▸ .refl a
  | .text s, _, a, _, ⟨rest, hrest, h⟩ => h ▸ ⟨s.length, by simp [hrest], [], rfl, by simp⟩
  | .set _, _, a, _, ⟨c, rest, hrest, _, h⟩ => h ▸ ⟨1, by simp [hrest], [], rfl, by simp⟩
  | .look _, _, a, _, ⟨_, h⟩ => h ▸ .refl a
  | .seq ns, hn, _, _, h => moves_of_matchesSeq ns hn h
  | .alt ns, hn, _, _, h => moves_of_matchesAlt ns hn h
  | .repeat _ _ _ body, hn, _, _, ⟨_, _, _, h⟩ =>
    .power (fun _ _ hab => moves_of_matches body hn hab) h
  | .capture i body, hn, a, _, ⟨c, hc, h⟩ => by
    have hi := hn.1
    have hbody := moves_of_matches body hn.2 hc
    exact h ▸ ((Moves.note (by omega) a).trans hbody).trans (.note (by omega) c)

theorem moves_of_matchesSeq : (ns : List Node) → NumberedAll ns → {a b : Spot} → matchesSeq ns a b →
    Moves a b
  | [], _, a, _, h => h ▸ .refl a
  | n :: ns, hns, _, _, ⟨_, hac, hcb⟩ =>
    (moves_of_matches n hns.1 hac).trans (moves_of_matchesSeq ns hns.2 hcb)

theorem moves_of_matchesAlt : (ns : List Node) → NumberedAll ns → {a b : Spot} → matchesAlt ns a b →
    Moves a b
  | [], _, _, _, h => h.elim
  | n :: _, hns, _, _, .inl h => moves_of_matches n hns.1 h
  | _ :: ns, hns, _, _, .inr h => moves_of_matchesAlt ns hns.2 h

end

/-- At a place of a text the node matches something. -/
def Begins (n : Node) (t : Text) (i : Nat) : Prop := ∃ b, n.Matches (place t i, [(0, i)]) b

end Node

/-- A match is one of a node in a text: the node matches between its ends, and the match has noted
what the node notes. -/
structure Match.IsOf (m : Match) (n : Node) (t : Text) : Prop where
  start_le : m.start ≤ m.stop
  stop_le : m.stop ≤ t.length
  matches_node : ∃ noted, n.Matches (place t m.start, [(0, m.start)]) (place t m.stop, noted) ∧
    m.saves = (1, m.stop) :: noted

theorem Match.IsOf.start_le_length {m : Match} (h : m.IsOf n t) : m.start ≤ t.length :=
  Nat.le_trans h.start_le h.stop_le

/-- Where a match is, the node begins to match. -/
theorem Match.IsOf.begins {m : Match} (h : m.IsOf n t) : n.Begins t m.start := by
  obtain ⟨noted, hmatches, -⟩ := h.matches_node
  exact ⟨_, hmatches⟩

theorem lookup_append_of_forall_ne {noted saves : Saves} {slot : Nat}
    (h : ∀ e ∈ noted, slot ≠ e.1) : (noted ++ saves).lookup slot = saves.lookup slot := by
  induction noted with
  | nil => rfl
  | cons e noted ih =>
    rw [List.forall_mem_cons] at h
    rw [List.cons_append, List.lookup_cons, beq_false_of_ne h.1, ih h.2]

/-- A match ends at a place of the text, and the place noted first is that where it begins. -/
theorem ends_of_matches (hn : n.Numbered) (hi : i ≤ t.length) {b : Spot}
    (h : n.Matches (place t i, [(0, i)]) b) :
    ∃ stop, i ≤ stop ∧ stop ≤ t.length ∧ b.1 = place t stop ∧ b.2.lookup 0 = some i := by
  obtain ⟨d, hd, noted, rfl, hnoted⟩ := Node.moves_of_matches n hn h
  rw [length_rest_place] at hd
  refine ⟨i + d, Nat.le_add_right i d, by omega, advanceBy_place t i d, ?_⟩
  exact lookup_append_of_forall_ne fun e he => by have := hnoted e he; omega

/-- The ends of a match can be read off what has been noted. -/
theorem exists_match_of_matches (hn : n.Numbered) (hi : i ≤ t.length) {b : Spot}
    (h : n.Matches (place t i, [(0, i)]) b) :
    ∃ m : Match, m.IsOf n t ∧ m.start = i ∧ Match.ofSaves? ((1, b.1.pos) :: b.2) = some m := by
  obtain ⟨stop, hstart, hstop, hb, hlookup⟩ := ends_of_matches hn hi h
  rw [hb, pos_place hstop]
  refine ⟨⟨i, stop, (1, stop) :: b.2⟩, ⟨hstart, hstop, b.2, ?_, rfl⟩, rfl, ?_⟩
  · rw [← hb]
    exact h
  · show (b.2.lookup 0).bind _ = _
    rw [hlookup]
    rfl

/-- What a match has matched. -/
def Match.text (m : Match) (t : Text) : Text := slice t m.start m.stop

/-- Group nought is the whole match. -/
theorem Match.IsOf.group_zero {m : Match} (h : m.IsOf n t) (hn : n.Numbered) :
    m.group? t 0 = some (m.text t) := by
  obtain ⟨noted, hmatches, hsaves⟩ := h.matches_node
  obtain ⟨_, -, -, -, hlookup⟩ := ends_of_matches hn h.start_le_length hmatches
  unfold Match.group?
  rw [hsaves]
  show (noted.lookup 0).bind _ = _
  rw [hlookup]
  rfl

/-! ## The first match -/

/-- A match is a leftmost one from a place on. -/
structure Match.IsFirst (m : Match) (n : Node) (t : Text) (i : Nat) : Prop extends m.IsOf n t where
  le_start : i ≤ m.start
  leftmost : ∀ e, i ≤ e → e < m.start → ¬ n.Begins t e

variable {r : Regex}

theorem starts_iff (hr : r.Runs n) {d : Nat} (hd : i + d ≤ t.length) {b : Spot} :
    Program.Starts r.program (place t i) d b ↔
      ∃ c, n.Matches (place t (i + d), [(0, i + d)]) c ∧ b = (c.1, (1, c.1.pos) :: c.2) := by
  unfold Program.Starts
  rw [hr.program, Program.accepts_ofNode_iff, advanceBy_place, pos_place hd]

theorem leftmost_search (hr : r.Runs n) (k : Cursor) :
    Program.Leftmost r.program k (r.program.search k) := by
  obtain ⟨next, hstart⟩ := Program.exists_code_ofNode n
  rw [hr.program]
  exact Program.leftmost_search hstart

/-- Where a node begins to match, a run starts at a distance from any place before. -/
theorem exists_starts_of_begins (hr : r.Runs n) {e : Nat} (he : i ≤ e) (hlen : e ≤ t.length)
    (h : n.Begins t e) : ∃ d ≤ (place t i).rest.length, e = i + d ∧
      ∃ b, Program.Starts r.program (place t i) d b := by
  obtain ⟨b, hb⟩ := h
  obtain ⟨d, rfl⟩ := Nat.exists_eq_add_of_le he
  refine ⟨d, ?_, rfl, _, (starts_iff hr hlen).mpr ⟨b, hb, rfl⟩⟩
  rw [length_rest_place]
  omega

theorem isFirst_of_find (hr : r.Runs n) (hi : i ≤ t.length) {m : Match}
    (h : r.find? (place t i) = some m) : m.IsFirst n t i := by
  obtain ⟨saves, hsaves, hm⟩ := Option.bind_eq_some_iff.mp h
  obtain ⟨d, hd, ⟨b, hstarts, rfl⟩, hleft⟩ := (leftmost_search hr _).some saves hsaves
  have hlen : i + d ≤ t.length := by
    rw [length_rest_place] at hd
    omega
  obtain ⟨c, hc, rfl⟩ := (starts_iff hr hlen).mp hstarts
  obtain ⟨m', hof, hstart, hm'⟩ := exists_match_of_matches hr.numbered hlen hc
  obtain rfl : m' = m := Option.some.inj (hm'.symm.trans hm)
  refine ⟨hof, hstart ▸ Nat.le_add_right i d, fun e he hlt hbegins => ?_⟩
  obtain ⟨f, hf, rfl, b, hb⟩ := exists_starts_of_begins hr he (by omega) hbegins
  have hdf := hleft f hf b hb
  omega

theorem not_begins_of_find (hr : r.Runs n) (hi : i ≤ t.length) (h : r.find? (place t i) = none)
    {e : Nat} (he : i ≤ e) (hlen : e ≤ t.length) : ¬ n.Begins t e := by
  have hleft := leftmost_search hr (place t i)
  rcases hsearch : r.program.search (place t i) with _ | saves
  · intro hbegins
    obtain ⟨d, hd, rfl, b, hb⟩ := exists_starts_of_begins hr he hlen hbegins
    exact hleft.none hsearch d hd b hb
  · obtain ⟨d, hd, ⟨b, hstarts, rfl⟩, -⟩ := hleft.some saves hsearch
    rw [length_rest_place] at hd
    obtain ⟨c, hc, rfl⟩ := (starts_iff hr (by omega)).mp hstarts
    obtain ⟨m, -, -, hm⟩ := exists_match_of_matches hr.numbered (by omega) hc
    rw [find?, hsearch, Option.bind_some, hm] at h
    cases h

/-- A text has a match if one begins somewhere in it. -/
theorem isMatch_iff (hr : r.Runs n) : r.isMatch t = true ↔ ∃ i ≤ t.length, n.Begins t i := by
  have hzero : r.find? (.atStart t) = r.find? (place t 0) := rfl
  rw [isMatch, hzero]
  constructor
  · intro h
    obtain ⟨m, hm⟩ := Option.isSome_iff_exists.mp h
    have hof := (isFirst_of_find hr (Nat.zero_le _) hm).toIsOf
    exact ⟨m.start, hof.start_le_length, hof.begins⟩
  · rintro ⟨e, he, hbegins⟩
    rcases hfind : r.find? (place t 0) with _ | m
    · exact absurd hbegins (not_begins_of_find hr (Nat.zero_le _) hfind (Nat.zero_le e) he)
    · rfl

/-! ## Successive matches -/

/-- Where the search for the next match begins: at the end of the last one, or one character further
if it would be an empty match there. -/
inductive Resumes (n : Node) (t : Text) (i : Nat) : Option Nat → Nat → Prop where
  | here {last : Option Nat} : Resumes n t i last i
  | passed {m : Match} : m.IsOf n t → m.start = i → m.stop = i → Resumes n t i (some i) (i + 1)

/-- The successive matches from a place on, where the match before them ends at `last`. -/
inductive Successive (n : Node) (t : Text) :
    (i : Nat) → (last : Option Nat) → List Match → Prop where
  | done {i j : Nat} {last : Option Nat} : Resumes n t i last j →
      (∀ e, j ≤ e → e ≤ t.length → ¬ n.Begins t e) → Successive n t i last []
  | next {i j : Nat} {last : Option Nat} {m : Match} {ms : List Match} : Resumes n t i last j →
      m.IsFirst n t j → ¬ (m.start = m.stop ∧ last = some m.stop) →
      Successive n t m.stop (some m.stop) ms → Successive n t i last (m :: ms)

theorem advance_place (t : Text) (i : Nat) : (place t i).advance = place t (i + 1) :=
  advanceBy_place t i 1

/-- What `findNext?` returns, where the match before ends at the place if there is one. -/
theorem findNext_spec (hr : r.Runs n) (hi : i ≤ t.length) {last : Option Nat}
    (hlast : ∀ e, last = some e → e = i) : ∃ j, Resumes n t i last j ∧
      ((r.findNext? (place t i) last = none ∧ ∀ e, j ≤ e → e ≤ t.length → ¬ n.Begins t e) ∨
        ∃ m, r.findNext? (place t i) last = some m ∧ m.IsFirst n t j ∧
          ¬ (m.start = m.stop ∧ last = some m.stop)) := by
  unfold findNext?
  rcases hfind : r.find? (place t i) with _ | m
  · exact ⟨i, .here, .inl ⟨rfl, fun e he hlen => not_begins_of_find hr hi hfind he hlen⟩⟩
  · have hfirst := isFirst_of_find hr hi hfind
    by_cases hempty : m.start = m.stop ∧ last = some m.stop
    · obtain ⟨hm, rfl⟩ := hempty
      obtain rfl := hlast m.stop rfl
      refine ⟨m.stop + 1, .passed hfirst.toIsOf hm rfl, ?_⟩
      dsimp only
      simp only [hm, and_self, if_true, List.isEmpty_iff, rest_place, List.drop_eq_nil_iff,
        advance_place]
      split
      · exact .inl ⟨rfl, fun e he hlen => by omega⟩
      · rename_i hinside
        rcases hnext : r.find? (place t (m.stop + 1)) with _ | m'
        · exact .inl ⟨rfl, fun e he hlen => not_begins_of_find hr (by omega) hnext he hlen⟩
        · have hfirst' := isFirst_of_find hr (by omega) hnext
          refine .inr ⟨m', rfl, hfirst', fun h => ?_⟩
          have := hfirst'.le_start
          have := Option.some.inj h.2
          omega
    · exact ⟨i, .here, .inr ⟨m, if_neg hempty, hfirst, hempty⟩⟩

/-- Every match ends further on than the one before, so as many matches as there are places are all
of them. -/
theorem successive_matchesFrom (hr : r.Runs n) {limit : Nat} (hi : i ≤ t.length)
    {last : Option Nat} (hlast : ∀ e, last = some e → e = i)
    (hlimit : t.length < i + limit ∨ last = some i ∧ t.length ≤ i + limit) :
    Successive n t i last (r.matchesFrom limit (place t i) last) := by
  induction limit generalizing i last with
  | zero =>
    -- The last match ends with the text, so that only an empty match could follow it there.
    obtain ⟨rfl, hlen⟩ := hlimit.resolve_left (by omega)
    by_cases hbegins : n.Begins t i
    · obtain ⟨b, hb⟩ := hbegins
      obtain ⟨m, hm, hstart, -⟩ := exists_match_of_matches hr.numbered hi hb
      have := hm.start_le
      have := hm.stop_le
      exact .done (.passed hm hstart (by omega)) fun e he hle => by omega
    · refine .done .here fun e he hle => ?_
      obtain rfl : e = i := by omega
      exact hbegins
  | succ limit ih =>
    rw [matchesFrom]
    obtain ⟨j, hresumes, ⟨hnone, hrest⟩ | ⟨m, hsome, hfirst, hempty⟩⟩ := findNext_spec hr hi hlast
    · rw [hnone]
      exact .done hresumes hrest
    · rw [hsome]
      have := hfirst.stop_le
      have := hfirst.start_le
      have := hfirst.le_start
      have hij : i ≤ j := by cases hresumes <;> omega
      refine .next hresumes hfirst hempty ?_
      rw [advanceBy_place, pos_place hi, Nat.add_sub_cancel' (by omega)]
      refine ih hfirst.stop_le (fun e he => (Option.some.inj he).symm) (.inr ⟨rfl, ?_⟩)
      rcases hlimit with hlimit | ⟨rfl, hlimit⟩
      · omega
      · have hfurther : m.stop ≠ i := fun h => hempty ⟨by omega, congrArg some h.symm⟩
        omega

/-- All successive matches in a text are found. -/
theorem successive_allMatches (hr : r.Runs n) (t : Text) : Successive n t 0 none (r.allMatches t) :=
  successive_matchesFrom hr (i := 0) (Nat.zero_le _) (fun _ h => by cases h) (.inl (by omega))

theorem take_matchesFrom (r : Regex) (limit : Nat) (k : Cursor) (last : Option Nat) :
    r.matchesFrom 1 k last = (r.matchesFrom (limit + 1) k last).take 1 := by
  rw [matchesFrom, matchesFrom]
  split
  · rfl
  · rw [List.take_succ_cons, List.take_zero, matchesFrom]

/-- The first of all matches is the one that is found alone. -/
theorem matchesUpTo_one (r : Regex) (t : Text) : r.matchesUpTo 1 t = (r.allMatches t).take 1 :=
  take_matchesFrom r t.length _ none

/-- There is no match to replace if the text has none. -/
theorem allMatches_eq_nil_iff (hr : r.Runs n) : r.allMatches t = [] ↔ r.isMatch t = false := by
  have h := successive_allMatches hr t
  rw [← Bool.not_eq_true, isMatch_iff hr]
  constructor
  · intro hnil
    rw [hnil] at h
    cases h with
    | done hresumes hrest =>
      cases hresumes with
      | here => exact fun ⟨e, he, hbegins⟩ => hrest e (Nat.zero_le e) he hbegins
  · intro hnone
    generalize r.allMatches t = ms at h
    cases h with
    | done => rfl
    | next _ hfirst =>
      exact absurd ⟨_, hfirst.start_le_length, hfirst.begins⟩ hnone

/-! ## Putting texts in place of matches -/

/-- The texts in front of, between and behind matches. -/
def gaps (t : Text) (pos : Nat) : List Match → List Text
  | [] => [t.drop pos]
  | m :: ms => slice t pos m.start :: gaps t m.stop ms

/-- Texts in turn from two lists. -/
def interleave : List Text → List Text → Text
  | u :: us, m :: ms => u ++ m ++ interleave us ms
  | us, _ => us.flatten

theorem splice_eq_interleave (t : Text) (f : Match → Text) (pos : Nat) (ms : List Match) :
    splice t f pos ms = interleave (gaps t pos ms) (ms.map f) := by
  induction ms generalizing pos with
  | nil => simp [splice, gaps, interleave]
  | cons m ms ih => rw [splice, gaps, List.map_cons, interleave, ih]

theorem drop_eq_slice_append {start stop : Nat} (h : start ≤ stop) :
    t.drop start = slice t start stop ++ t.drop stop := by
  obtain ⟨d, rfl⟩ := Nat.exists_eq_add_of_le h
  rw [slice, Nat.add_sub_cancel_left, ← List.drop_drop, List.take_append_drop]

theorem Successive.forall_isOf {last : Option Nat} {ms : List Match}
    (h : Successive n t i last ms) : ∀ m ∈ ms, m.IsOf n t := by
  induction h with
  | done => exact List.forall_mem_nil _
  | next _ hfirst _ _ ih => exact List.forall_mem_cons.mpr ⟨hfirst.toIsOf, ih⟩

/-- The first matches, with the texts around them, make up the text. -/
theorem Successive.splice_take {last : Option Nat} {ms : List Match} (h : Successive n t i last ms)
    (k : Nat) : splice t (·.text t) i (ms.take k) = t.drop i := by
  induction h generalizing k with
  | done =>
    rw [List.take_nil]
    rfl
  | @next i j last m ms hresumes hfirst _ _ ih =>
    have hij : i ≤ j := by cases hresumes <;> omega
    rcases k with _ | k
    · rfl
    · rw [List.take_succ_cons, splice, ih, List.append_assoc, Match.text,
        ← drop_eq_slice_append hfirst.start_le,
        ← drop_eq_slice_append (Nat.le_trans hij hfirst.le_start)]

end TagEdit.Regex
