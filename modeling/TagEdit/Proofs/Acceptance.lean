import TagEdit.Proofs.Grammar
import TagEdit.Proofs.Lexing

/-!
# Parsing accepts the grammar

Soundness: what a reader takes off the front of some tokens derives the value
that it returns. Completeness: on tokens that derive a value, whatever comes
after them, a reader goes on as its loop does from that value. Both are inductions
along the grammar; a loop carries what has been read before it.
-/

namespace TagEdit.Script

/-! ## Bookkeeping -/

/-- `rest` is left of `ts` after tokens with a property. -/
def Takes (ts rest : List Placed) (P : List Token → Prop) : Prop :=
  ∃ us : List Placed, ts = us ++ rest ∧ P (us.map Placed.token)

theorem Takes.one {t : Placed} {rest : List Placed} {P : List Token → Prop} (h : P [t.token]) :
    Takes (t :: rest) rest P := ⟨[t], rfl, h⟩

theorem Takes.cons {t : Placed} {ts rest : List Placed} {P Q : List Token → Prop}
    (h : Takes ts rest P) (hq : ∀ us, P us → Q (t.token :: us)) : Takes (t :: ts) rest Q := by
  obtain ⟨us, rfl, hp⟩ := h
  exact ⟨t :: us, rfl, hq _ hp⟩

theorem Takes.after {t : Placed} {ts rest : List Placed} {P : List Token → Prop}
    (h : Takes ts rest P) : Takes (t :: ts) rest fun us => ∃ vs, us = t.token :: vs ∧ P vs :=
  h.cons fun us hus => ⟨us, rfl, hus⟩

theorem Takes.append {ts mid rest : List Placed} {P Q R : List Token → Prop}
    (h1 : Takes ts mid P) (h2 : Takes mid rest Q) (hr : ∀ us vs, P us → Q vs → R (us ++ vs)) :
    Takes ts rest R := by
  obtain ⟨us, rfl, hp⟩ := h1
  obtain ⟨vs, rfl, hq⟩ := h2
  exact ⟨us ++ vs, by simp, by simpa using hr _ _ hp hq⟩

theorem Takes.imp {ts rest : List Placed} {P Q : List Token → Prop} (h : Takes ts rest P)
    (hq : ∀ us, P us → Q us) : Takes ts rest Q := by
  obtain ⟨us, rfl, hp⟩ := h
  exact ⟨us, rfl, hq _ hp⟩

theorem Takes.refl {ts : List Placed} {P : List Token → Prop} (h : P []) : Takes ts ts P :=
  ⟨[], rfl, h⟩

theorem expect_takes {stop : Nat} {t : Token} {ts rest : List Placed} {u : Unit}
    (h : reading (expect stop t ts) = .ok (u, rest)) : Takes ts rest (· = [t]) := by
  rw [reading_expect] at h
  split at h
  · cases h
  · split at h
    · rename_i ht
      cases h
      exact .one (by rw [ht])
    · cases h

theorem Takes.closed {stop : Nat} {t : Token} {ts mid rest : List Placed} {u : Unit}
    {P : List Token → Prop} (h : Takes ts mid P)
    (hc : reading (expect stop t mid) = .ok (u, rest)) :
    Takes ts rest fun us => ∃ vs, us = vs ++ [t] ∧ P vs :=
  h.append (expect_takes hc) fun us _ hus ht => ⟨us, by rw [ht], hus⟩

theorem reading_expect_cons (stop : Nat) {t : Placed} (rest : List Placed) :
    reading (expect stop t.token (t :: rest)) = .ok ((), rest) := by
  rw [reading_expect]
  exact if_pos rfl

theorem builds_of_buildRegex {allowed pattern flags : Text} {r : Regex}
    (h : buildRegex allowed pattern flags = .ok r) : Builds allowed pattern flags r := by
  unfold buildRegex at h
  split at h
  · cases h
  · rename_i hnone
    have hall : ∀ c ∈ flags, c ∈ allowed := by
      intro c hc
      simpa using List.find?_eq_none.mp hnone c hc
    split at h
    · cases h
    · rename_i r' hr
      cases h
      exact ⟨hall, hr⟩

theorem Builds.buildRegex {allowed pattern flags : Text} {r : Regex}
    (h : Builds allowed pattern flags r) : buildRegex allowed pattern flags = .ok r := by
  have hnone : flags.find? (fun c => !allowed.contains c) = none := by
    rw [List.find?_eq_none]
    intro c hc
    simpa using h.1 c hc
  rw [Script.buildRegex, hnone]
  simp only [h.2]

/-! ## Soundness -/

mutual

theorem atom_sound (stop : Nat) (ts : List Placed) {e : Expr} {rest : List Placed}
    (h : reading (atom stop ts) = .ok (e, rest)) : Takes ts rest (DerivesAtom · e) := by
  rw [reading_atom] at h
  split at h
  · cases h
    exact .one (.plain _)
  · obtain ⟨ps, hps, hr⟩ := exists_of_map_eq_ok h
    cases hr
    exact .one (.interpolated (placeAt_eq_ok hps))
  · cases h
    exact .one (.int _)
  · obtain ⟨v, hv, hr⟩ := exists_of_map_eq_ok h
    cases hr
    cases name_of_resolveVar hv
    exact .one (.var v)
  · split at h
    · cases h
    · rename_i name column after _ f hf
      cases Func.name_of_ofName? hf
      obtain ⟨_, opened, ho, h⟩ := Reading.next_eq_ok h
      obtain ⟨arg, closing, ha, h⟩ := Reading.next_eq_ok h
      obtain ⟨_, hc, rfl⟩ := Reading.build_eq_ok h
      have := reading_shorter ho
      have hargs := (expr_sound stop opened ha).closed hc
      refine Takes.cons (P := fun us => ∃ vs, us = .openParen :: (vs ++ [.closeParen]) ∧
        DerivesExpr vs arg) ((expect_takes ho).append hargs ?_) ?_
      · rintro _ _ rfl ⟨vs, rfl, hvs⟩
        exact ⟨vs, rfl, hvs⟩
      · rintro _ ⟨vs, rfl, hvs⟩
        exact .call f hvs
  · cases h
termination_by (ts.length, 0)
decreasing_by subst_vars; exact .left _ _ (by simp; omega)

theorem expr_sound (stop : Nat) (ts : List Placed) {e : Expr} {rest : List Placed}
    (h : reading (expr stop ts) = .ok (e, rest)) : Takes ts rest (DerivesExpr · e) := by
  rw [reading_expr] at h
  obtain ⟨a, mid, ha, h⟩ := Reading.next_eq_ok h
  have := reading_shorter ha
  exact (atom_sound stop ts ha).append (exprTail_sound stop a mid h)
    fun us vs hus hvs => hvs us (.atom hus)
termination_by (ts.length, 1)

theorem exprTail_sound (stop : Nat) (lhs : Expr) (ts : List Placed) {e : Expr}
    {rest : List Placed} (h : tailReading (exprTail stop lhs ts) = .ok (e, rest)) :
    Takes ts rest fun us => ∀ vs, DerivesExpr vs lhs → DerivesExpr (vs ++ us) e := by
  rw [tailReading_exprTail] at h
  split at h
  · rename_i column after
    obtain ⟨a, mid, ha, h⟩ := Reading.next_eq_ok h
    have := reading_shorter ha
    refine .cons ((atom_sound stop after ha).append (exprTail_sound stop (.concat lhs a) mid h)
      (R := fun us => ∀ vs, DerivesExpr vs lhs → DerivesExpr (vs ++ .dot :: us) e) ?_) ?_
    · intro us vs hus hvs ws hws
      simpa using hvs _ (.concat hws hus)
    · exact fun us hus => hus
  · cases h
    exact .refl fun vs hvs => by simpa using hvs
termination_by (ts.length, 0)
decreasing_by all_goals subst_vars; exact .left _ _ (by simp; try omega)

end

theorem matchRegex_sound {stop : Nat} {ts : List Placed} {r : Regex} {rest : List Placed}
    (h : reading (matchRegex stop ts) = .ok (r, rest)) :
    Takes ts rest fun us =>
      ∃ pattern flags, us = [.matching pattern flags] ∧ Builds matchFlags pattern flags r := by
  rw [reading_matchRegex] at h
  split at h
  · rename_i pattern flags column after
    obtain ⟨r', hr, h⟩ := exists_of_map_eq_ok h
    cases h
    exact .one ⟨pattern, flags, rfl, builds_of_buildRegex (placeAt_eq_ok hr)⟩
  · cases h

theorem textToken_of_textOp? {t : Token} {negated : Bool} (h : textOp? t = some negated) :
    t = textToken negated := by
  cases t <;> cases h <;> rfl

theorem token_of_numOp? {t : Token} {op : NumOp} (h : numOp? t = some op) : t = op.token := by
  cases t <;> cases h <;> rfl

theorem comparisonTail_sound {stop : Nat} {lhs : Expr} {ts : List Placed} {c : Cond}
    {rest : List Placed} (h : tailReading (comparisonTail stop lhs ts) = .ok (c, rest)) :
    Takes ts rest fun us => ∀ vs, DerivesExpr vs lhs → DerivesUnary (vs ++ us) c := by
  rw [tailReading_comparisonTail] at h
  split at h
  · cases h
    exact .refl fun vs hvs => by simpa using DerivesUnary.truthy hvs
  rename_i t after
  split at h
  · rename_i ht
    obtain ⟨r, hr, rfl⟩ := Reading.build_eq_ok h
    refine (matchRegex_sound hr).cons ?_
    rintro _ ⟨pattern, flags, rfl, hb⟩ vs hvs
    rcases ht with ht | ht <;> rw [ht]
    · exact .matching false hvs hb
    · exact .matching true hvs hb
  · split at h
    · rename_i negated hop
      obtain ⟨e, he, rfl⟩ := Reading.build_eq_ok h
      refine (expr_sound stop after he).cons fun us hus vs hvs => ?_
      rw [textToken_of_textOp? hop]
      exact .text negated hvs hus
    · split at h
      · rename_i op hop
        obtain ⟨e, he, rfl⟩ := Reading.build_eq_ok h
        refine (expr_sound stop after he).cons fun us hus vs hvs => ?_
        rw [token_of_numOp? hop]
        exact .number op hvs hus
      · cases h
        exact .refl fun vs hvs => by simpa using DerivesUnary.truthy hvs

theorem comparison_sound {stop : Nat} {ts : List Placed} {c : Cond} {rest : List Placed}
    (h : reading (comparison stop ts) = .ok (c, rest)) : Takes ts rest (DerivesUnary · c) := by
  rw [reading_comparison] at h
  obtain ⟨e, mid, he, h⟩ := Reading.next_eq_ok h
  exact (expr_sound stop ts he).append (comparisonTail_sound h) fun us vs hus hvs => hvs us hus

mutual

theorem unaryCond_sound (stop : Nat) (ts : List Placed) {c : Cond} {rest : List Placed}
    (h : reading (unaryCond stop ts) = .ok (c, rest)) : Takes ts rest (DerivesUnary · c) := by
  rw [reading_unaryCond] at h
  split at h
  · rename_i column after
    obtain ⟨c', hc, rfl⟩ := Reading.build_eq_ok h
    exact (unaryCond_sound stop after hc).cons fun us hus => .not hus
  · rename_i column after
    obtain ⟨c', closing, hc, h⟩ := Reading.next_eq_ok h
    obtain ⟨_, hclose, rfl⟩ := Reading.build_eq_ok h
    refine ((cond_sound stop after hc).closed hclose).cons ?_
    rintro _ ⟨vs, rfl, hvs⟩
    exact .paren hvs
  · obtain ⟨r, hr, rfl⟩ := Reading.build_eq_ok h
    refine (matchRegex_sound hr).imp ?_
    rintro _ ⟨pattern, flags, rfl, hb⟩
    exact .value hb
  · exact comparison_sound h
termination_by (ts.length, 0)
decreasing_by all_goals subst_vars; exact .left _ _ (by simp)

theorem andCond_sound (stop : Nat) (ts : List Placed) {c : Cond} {rest : List Placed}
    (h : reading (andCond stop ts) = .ok (c, rest)) : Takes ts rest (DerivesAnd · c) := by
  rw [reading_andCond] at h
  obtain ⟨a, mid, ha, h⟩ := Reading.next_eq_ok h
  have := reading_shorter ha
  exact (unaryCond_sound stop ts ha).append (andTail_sound stop a mid h)
    fun us vs hus hvs => hvs us (.unary hus)
termination_by (ts.length, 1)

theorem andTail_sound (stop : Nat) (lhs : Cond) (ts : List Placed) {c : Cond}
    {rest : List Placed} (h : tailReading (andTail stop lhs ts) = .ok (c, rest)) :
    Takes ts rest fun us => ∀ vs, DerivesAnd vs lhs → DerivesAnd (vs ++ us) c := by
  rw [tailReading_andTail] at h
  split at h
  · rename_i column after
    obtain ⟨a, mid, ha, h⟩ := Reading.next_eq_ok h
    have := reading_shorter ha
    refine .cons ((unaryCond_sound stop after ha).append (andTail_sound stop (.and lhs a) mid h)
      (R := fun us => ∀ vs, DerivesAnd vs lhs → DerivesAnd (vs ++ .andAnd :: us) c) ?_) ?_
    · intro us vs hus hvs ws hws
      simpa using hvs _ (.and hws hus)
    · exact fun us hus => hus
  · cases h
    exact .refl fun vs hvs => by simpa using hvs
termination_by (ts.length, 0)
decreasing_by all_goals subst_vars; exact .left _ _ (by simp; try omega)

theorem cond_sound (stop : Nat) (ts : List Placed) {c : Cond} {rest : List Placed}
    (h : reading (cond stop ts) = .ok (c, rest)) : Takes ts rest (DerivesCond · c) := by
  rw [reading_cond] at h
  obtain ⟨a, mid, ha, h⟩ := Reading.next_eq_ok h
  have := reading_shorter ha
  exact (andCond_sound stop ts ha).append (orTail_sound stop a mid h)
    fun us vs hus hvs => hvs us (.and hus)
termination_by (ts.length, 2)

theorem orTail_sound (stop : Nat) (lhs : Cond) (ts : List Placed) {c : Cond}
    {rest : List Placed} (h : tailReading (orTail stop lhs ts) = .ok (c, rest)) :
    Takes ts rest fun us => ∀ vs, DerivesCond vs lhs → DerivesCond (vs ++ us) c := by
  rw [tailReading_orTail] at h
  split at h
  · rename_i column after
    obtain ⟨a, mid, ha, h⟩ := Reading.next_eq_ok h
    have := reading_shorter ha
    refine .cons ((andCond_sound stop after ha).append (orTail_sound stop (.or lhs a) mid h)
      (R := fun us => ∀ vs, DerivesCond vs lhs → DerivesCond (vs ++ .orOr :: us) c) ?_) ?_
    · intro us vs hus hvs ws hws
      simpa using hvs _ (.or hws hus)
    · exact fun us hus => hus
  · cases h
    exact .refl fun vs hvs => by simpa using hvs
termination_by (ts.length, 0)
decreasing_by all_goals subst_vars; exact .left _ _ (by simp; try omega)

end

theorem action_sound {stop : Nat} {ts : List Placed} {a : Action} {rest : List Placed}
    (h : reading (action stop ts) = .ok (a, rest)) : Takes ts rest (DerivesAction · a) := by
  rw [reading_action] at h
  split at h
  · cases h
    exact .one .last
  · obtain ⟨r, hr, h⟩ := exists_of_bind_eq_ok h
    obtain ⟨ps, hps, h⟩ := exists_of_map_eq_ok h
    cases h
    exact .one (.substitute (builds_of_buildRegex (placeAt_eq_ok hr)) (placeAt_eq_ok hps))
  · rename_i name column after
    obtain ⟨v, hv, h⟩ := exists_of_bind_eq_ok h
    split at h
    · cases h
    · rename_i hvalue
      cases Decidable.not_not.mp hvalue
      cases name_of_resolveVar hv
      rw [reading_assignment] at h
      split at h
      · obtain ⟨e, he, rfl⟩ := Reading.build_eq_ok h
        refine (expr_sound stop _ he).after.cons ?_
        rintro _ ⟨vs, rfl, hvs⟩
        exact .assign .assign hvs
      · obtain ⟨e, he, rfl⟩ := Reading.build_eq_ok h
        refine (expr_sound stop _ he).after.cons ?_
        rintro _ ⟨vs, rfl, hvs⟩
        exact .assign .append hvs
      · cases h
  · cases h
  · cases h

theorem statement_sound {stop : Nat} {ts : List Placed} {s : Statement} {rest : List Placed}
    (h : reading (statement stop ts) = .ok (s, rest)) : Takes ts rest (DerivesStatement · s) := by
  rw [reading_statement] at h
  obtain ⟨a, mid, ha, h⟩ := Reading.next_eq_ok h
  obtain ⟨g, hg, rfl⟩ := Reading.build_eq_ok h
  have ha := action_sound ha
  rw [tailReading_guardTail] at hg
  split at hg
  · obtain ⟨c, hc, rfl⟩ := Reading.build_eq_ok hg
    refine ha.append (cond_sound stop _ hc).after ?_
    rintro us _ hus ⟨vs, rfl, hvs⟩
    exact .guarded false hus hvs
  · obtain ⟨c, hc, rfl⟩ := Reading.build_eq_ok hg
    refine ha.append (cond_sound stop _ hc).after ?_
    rintro us _ hus ⟨vs, rfl, hvs⟩
    exact .guarded true hus hvs
  · cases hg
    exact ha.imp fun us hus => .bare hus

theorem statements_sound (stop : Nat) : (ts : List Placed) → {p : Script} →
    statements stop ts = .ok p → DerivesScript (ts.map Placed.token) p
  | [], _, h => by
    rw [statements_nil] at h
    cases h
    exact .last .none
  | t :: rest, p, h => by
    by_cases ht : t.token = .semicolon
    · rw [statements_semicolon stop ht] at h
      rw [List.map_cons, ht]
      exact .cons .none (statements_sound stop rest h)
    rw [statements_cons stop ht] at h
    obtain ⟨⟨s, after⟩, hs, h⟩ := exists_of_bind_eq_ok h
    have hshort := reading_shorter hs
    obtain ⟨us, hus, hd⟩ := statement_sound hs
    rw [hus]
    rcases after with _ | ⟨u, after⟩
    · cases h
      rw [List.append_nil]
      exact .last (.some hd)
    simp only [statementsAfter] at h
    split at h
    · rename_i hu
      obtain ⟨q, hq, rfl⟩ := exists_of_map_eq_ok h
      rw [List.map_append, List.map_cons, hu]
      have : after.length < rest.length := by simpa using hshort
      exact .cons (.some hd) (statements_sound stop after hq)
    · cases h
termination_by ts => ts.length

/-! ## Completeness -/

/-- How tightly an operator ties what stands around it. -/
def Token.rank : Token → Nat
  | .dot => 4
  | .bindMatch | .bindNotMatch | .eqWord | .neWord | .numEq | .numNe | .lt | .le | .gt | .ge => 3
  | .andAnd => 2
  | .orOr => 1
  | _ => 0

/-- Tokens of which the first, if there is one, ties less tightly than a rank. -/
def Looser (n : Nat) (ts : List Placed) : Prop := ∀ t ∈ ts.head?, t.token.rank < n

theorem Looser.mono {m n : Nat} {ts : List Placed} (h : Looser m ts) (hmn : m ≤ n) :
    Looser n ts := fun t ht => Nat.lt_of_lt_of_le (h t ht) hmn

theorem looser_cons {n : Nat} {t : Placed} {ts : List Placed} :
    Looser n (t :: ts) ↔ t.token.rank < n := by simp [Looser]

theorem exprTail_stops (stop : Nat) (e : Expr) {ts : List Placed} (h : Looser 4 ts) :
    tailReading (exprTail stop e ts) = .ok (e, ts) := by
  rw [tailReading_exprTail]
  split
  · simp [looser_cons, Token.rank] at h
  · rfl

theorem andTail_stops (stop : Nat) (c : Cond) {ts : List Placed} (h : Looser 2 ts) :
    tailReading (andTail stop c ts) = .ok (c, ts) := by
  rw [tailReading_andTail]
  split
  · simp [looser_cons, Token.rank] at h
  · rfl

theorem orTail_stops (stop : Nat) (c : Cond) {ts : List Placed} (h : Looser 1 ts) :
    tailReading (orTail stop c ts) = .ok (c, ts) := by
  rw [tailReading_orTail]
  split
  · simp [looser_cons, Token.rank] at h
  · rfl

theorem comparisonTail_stops (stop : Nat) (e : Expr) {ts : List Placed} (h : Looser 3 ts) :
    tailReading (comparisonTail stop e ts) = .ok (.truthy e, ts) := by
  rw [tailReading_comparisonTail]
  rcases ts with _ | ⟨⟨t, column⟩, rest⟩
  · rfl
  rw [looser_cons] at h
  cases t <;> first | rfl | simp [Token.rank] at h

theorem exists_of_tokens_split {ts : List Placed} {us vs : List Token} {t : Token}
    (h : ts.map Placed.token = us ++ t :: vs) : ∃ us' column vs', ts = us' ++ ⟨t, column⟩ :: vs' ∧
      us'.map Placed.token = us ∧ vs'.map Placed.token = vs := by
  obtain ⟨us', ts', rfl, hus, hts⟩ := List.map_eq_append_iff.mp h
  obtain ⟨⟨_, column⟩, vs', rfl, rfl, hvs⟩ := List.map_eq_cons_iff.mp hts
  exact ⟨us', column, vs', rfl, hus, hvs⟩

mutual

/-- Whatever comes after the tokens of an atom, they are read as the atom. -/
theorem DerivesAtom.reads (stop : Nat) : {us : List Token} → {e : Expr} → DerivesAtom us e →
    (ts : List Placed) → ts.map Placed.token = us → (rest : List Placed) →
    reading (atom stop (ts ++ rest)) = .ok (e, rest)
  | _, _, .plain t, ts, hts, rest => by
    obtain ⟨⟨_, column⟩, rfl, rfl⟩ := List.map_eq_singleton_iff.mp hts
    rw [List.singleton_append, reading_atom]
  | _, _, .interpolated h, ts, hts, rest => by
    obtain ⟨⟨_, column⟩, rfl, rfl⟩ := List.map_eq_singleton_iff.mp hts
    rw [List.singleton_append, reading_atom]
    simp only [h]
    rfl
  | _, _, .int n, ts, hts, rest => by
    obtain ⟨⟨_, column⟩, rfl, rfl⟩ := List.map_eq_singleton_iff.mp hts
    rw [List.singleton_append, reading_atom]
  | _, _, .var v, ts, hts, rest => by
    obtain ⟨⟨_, column⟩, rfl, rfl⟩ := List.map_eq_singleton_iff.mp hts
    rw [List.singleton_append, reading_atom]
    simp only [resolveVar_name]
    rfl
  | _, _, .call f h, ts, hts, rest => by
    obtain ⟨⟨_, column⟩, ts, rfl, rfl, hargs⟩ := List.map_eq_cons_iff.mp hts
    obtain ⟨opened, ts, rfl, hopened, hargs⟩ := List.map_eq_cons_iff.mp hargs
    obtain ⟨arg, close, rfl, harg, hclose⟩ := List.map_eq_append_iff.mp hargs
    obtain ⟨closed, rfl, hclosed⟩ := List.map_eq_singleton_iff.mp hclose
    have hstop : Looser 4 (closed :: rest) := by simp [looser_cons, hclosed, Token.rank]
    rw [List.cons_append, List.cons_append, List.append_assoc, List.singleton_append, reading_atom]
    simp only [Func.ofName?_name]
    rw [← hopened, reading_expect_cons, Reading.next_ok, h.reads stop arg harg,
      exprTail_stops stop _ hstop, Reading.next_ok, ← hclosed, reading_expect_cons,
      Reading.build_ok]

theorem DerivesExpr.reads (stop : Nat) : {us : List Token} → {e : Expr} → DerivesExpr us e →
    (ts : List Placed) → ts.map Placed.token = us → (rest : List Placed) →
    reading (expr stop (ts ++ rest)) = tailReading (exprTail stop e rest)
  | _, _, .atom h, ts, hts, rest => by
    rw [reading_expr, h.reads stop ts hts, Reading.next_ok]
  | _, _, .concat h1 h2, ts, hts, rest => by
    obtain ⟨us, column, vs, rfl, hus, hvs⟩ := exists_of_tokens_split hts
    rw [List.append_assoc, h1.reads stop us hus, List.cons_append, tailReading_exprTail]
    simp only
    rw [h2.reads stop vs hvs, Reading.next_ok]

end

theorem DerivesExpr.reads_to (stop : Nat) {us : List Token} {e : Expr} (h : DerivesExpr us e)
    (ts : List Placed) (hts : ts.map Placed.token = us) {rest : List Placed}
    (hrest : Looser 4 rest) : reading (expr stop (ts ++ rest)) = .ok (e, rest) := by
  rw [h.reads stop ts hts, exprTail_stops stop e hrest]

theorem Builds.reads (stop : Nat) {pattern flags : Text} {r : Regex}
    (h : Builds matchFlags pattern flags r) {t : Placed} (ht : t.token = .matching pattern flags)
    (rest : List Placed) : reading (matchRegex stop (t :: rest)) = .ok (r, rest) := by
  obtain ⟨_, column⟩ := t
  cases ht
  rw [reading_matchRegex]
  simp only [h.buildRegex]
  rfl

/-- A condition that begins like an expression is read as a comparison. -/
theorem unaryCond_of_beginsAtom (stop : Nat) {t : Placed} (ht : t.token.beginsAtom = true)
    (ts : List Placed) :
    reading (unaryCond stop (t :: ts)) = reading (comparison stop (t :: ts)) := by
  rw [reading_unaryCond]
  obtain ⟨token, column⟩ := t
  cases token <;> first | rfl | cases ht

theorem DerivesExpr.reads_unary (stop : Nat) {us : List Token} {e : Expr} (h : DerivesExpr us e)
    (ts : List Placed) (hts : ts.map Placed.token = us) {rest : List Placed}
    (hrest : Looser 4 rest) :
    reading (unaryCond stop (ts ++ rest)) = tailReading (comparisonTail stop e rest) := by
  obtain ⟨t, us, rfl, ht⟩ := h.first
  obtain ⟨t, ts, rfl, rfl, _⟩ := List.map_eq_cons_iff.mp hts
  rw [List.cons_append, unaryCond_of_beginsAtom stop ht, reading_comparison, ← List.cons_append,
    h.reads_to stop _ hts hrest, Reading.next_ok]

theorem comparisonTail_bind (stop column : Nat) (lhs : Expr) (negated : Bool)
    (rest : List Placed) :
    tailReading (comparisonTail stop lhs (⟨bindToken negated, column⟩ :: rest)) =
      (reading (matchRegex stop rest)).build fun r => .matching lhs r negated := by
  rw [tailReading_comparisonTail]
  cases negated <;> simp [bindToken]

theorem comparisonTail_text (stop column : Nat) (lhs : Expr) (negated : Bool)
    (rest : List Placed) :
    tailReading (comparisonTail stop lhs (⟨textToken negated, column⟩ :: rest)) =
      (reading (expr stop rest)).build fun e => .text lhs negated e := by
  rw [tailReading_comparisonTail]
  cases negated <;> simp [textToken, textOp?]

theorem comparisonTail_number (stop column : Nat) (lhs : Expr) (op : NumOp)
    (rest : List Placed) :
    tailReading (comparisonTail stop lhs (⟨op.token, column⟩ :: rest)) =
      (reading (expr stop rest)).build fun e => .number lhs op e := by
  rw [tailReading_comparisonTail]
  cases op <;> simp [NumOp.token, textOp?, numOp?]

mutual

theorem DerivesUnary.reads (stop : Nat) : {us : List Token} → {c : Cond} → DerivesUnary us c →
    (ts : List Placed) → ts.map Placed.token = us → {rest : List Placed} → Looser 3 rest →
    reading (unaryCond stop (ts ++ rest)) = .ok (c, rest)
  | _, _, .not h, ts, hts, rest, hrest => by
    obtain ⟨⟨_, column⟩, ts, rfl, rfl, hinner⟩ := List.map_eq_cons_iff.mp hts
    rw [List.cons_append, reading_unaryCond]
    simp only
    rw [h.reads stop ts hinner hrest, Reading.build_ok]
  | _, _, .paren h, ts, hts, rest, hrest => by
    obtain ⟨⟨_, column⟩, ts, rfl, rfl, hinner⟩ := List.map_eq_cons_iff.mp hts
    obtain ⟨us, close, rfl, hus, hclose⟩ := List.map_eq_append_iff.mp hinner
    obtain ⟨closed, rfl, hclosed⟩ := List.map_eq_singleton_iff.mp hclose
    have hstop : Looser 1 (closed :: rest) := by simp [looser_cons, hclosed, Token.rank]
    rw [List.cons_append, List.append_assoc, List.singleton_append, reading_unaryCond]
    simp only
    rw [h.reads stop us hus (hstop.mono (by decide)), orTail_stops stop _ hstop, Reading.next_ok,
      ← hclosed, reading_expect_cons, Reading.build_ok]
  | _, _, .value h, ts, hts, rest, hrest => by
    obtain ⟨⟨_, column⟩, rfl, rfl⟩ := List.map_eq_singleton_iff.mp hts
    rw [List.singleton_append, reading_unaryCond]
    simp only
    rw [h.reads stop rfl, Reading.build_ok]
  | _, _, .matching negated h hb, ts, hts, rest, hrest => by
    obtain ⟨us, column, vs, rfl, hus, hvs⟩ := exists_of_tokens_split hts
    obtain ⟨pattern, rfl, hpattern⟩ := List.map_eq_singleton_iff.mp hvs
    have hstop : Looser 4 (⟨bindToken negated, column⟩ :: pattern :: rest) := by
      cases negated <;> simp [looser_cons, bindToken, Token.rank]
    rw [List.append_assoc, List.cons_append, List.singleton_append,
      h.reads_unary stop us hus hstop, comparisonTail_bind stop, hb.reads stop hpattern,
      Reading.build_ok]
  | _, _, .text negated h1 h2, ts, hts, rest, hrest => by
    obtain ⟨us, column, vs, rfl, hus, hvs⟩ := exists_of_tokens_split hts
    have hstop : Looser 4 (⟨textToken negated, column⟩ :: (vs ++ rest)) := by
      cases negated <;> simp [looser_cons, textToken, Token.rank]
    rw [List.append_assoc, List.cons_append, h1.reads_unary stop us hus hstop,
      comparisonTail_text stop, h2.reads_to stop vs hvs (hrest.mono (by decide)),
      Reading.build_ok]
  | _, _, .number op h1 h2, ts, hts, rest, hrest => by
    obtain ⟨us, column, vs, rfl, hus, hvs⟩ := exists_of_tokens_split hts
    have hstop : Looser 4 (⟨op.token, column⟩ :: (vs ++ rest)) := by
      cases op <;> simp [looser_cons, NumOp.token, Token.rank]
    rw [List.append_assoc, List.cons_append, h1.reads_unary stop us hus hstop,
      comparisonTail_number stop, h2.reads_to stop vs hvs (hrest.mono (by decide)),
      Reading.build_ok]
  | _, _, .truthy h, ts, hts, rest, hrest => by
    rw [h.reads_unary stop ts hts (hrest.mono (by decide)), comparisonTail_stops stop _ hrest]

theorem DerivesAnd.reads (stop : Nat) : {us : List Token} → {c : Cond} → DerivesAnd us c →
    (ts : List Placed) → ts.map Placed.token = us → {rest : List Placed} → Looser 3 rest →
    reading (andCond stop (ts ++ rest)) = tailReading (andTail stop c rest)
  | _, _, .unary h, ts, hts, rest, hrest => by
    rw [reading_andCond, h.reads stop ts hts hrest, Reading.next_ok]
  | _, _, .and h1 h2, ts, hts, rest, hrest => by
    obtain ⟨us, column, vs, rfl, hus, hvs⟩ := exists_of_tokens_split hts
    rw [List.append_assoc, List.cons_append,
      h1.reads stop us hus (looser_cons.mpr (by simp [Token.rank])), tailReading_andTail]
    simp only
    rw [h2.reads stop vs hvs hrest, Reading.next_ok]

theorem DerivesCond.reads (stop : Nat) : {us : List Token} → {c : Cond} → DerivesCond us c →
    (ts : List Placed) → ts.map Placed.token = us → {rest : List Placed} → Looser 2 rest →
    reading (cond stop (ts ++ rest)) = tailReading (orTail stop c rest)
  | _, _, .and h, ts, hts, rest, hrest => by
    rw [reading_cond, h.reads stop ts hts (hrest.mono (by decide)), andTail_stops stop _ hrest,
      Reading.next_ok]
  | _, _, .or h1 h2, ts, hts, rest, hrest => by
    obtain ⟨us, column, vs, rfl, hus, hvs⟩ := exists_of_tokens_split hts
    rw [List.append_assoc, List.cons_append,
      h1.reads stop us hus (looser_cons.mpr (by simp [Token.rank])), tailReading_orTail]
    simp only
    rw [h2.reads stop vs hvs (hrest.mono (by decide)), andTail_stops stop _ hrest, Reading.next_ok]

end

theorem DerivesAction.reads (stop : Nat) {us : List Token} {a : Action} (h : DerivesAction us a)
    (ts : List Placed) (hts : ts.map Placed.token = us) {rest : List Placed}
    (hrest : Looser 1 rest) : reading (action stop (ts ++ rest)) = .ok (a, rest) := by
  cases h with
  | last =>
    obtain ⟨⟨_, column⟩, rfl, rfl⟩ := List.map_eq_singleton_iff.mp hts
    rw [List.singleton_append, reading_action]
  | substitute hb hps =>
    obtain ⟨⟨_, column⟩, rfl, rfl⟩ := List.map_eq_singleton_iff.mp hts
    rw [List.singleton_append, reading_action]
    simp only [hb.buildRegex, hps]
    rfl
  | assign ht he =>
    obtain ⟨⟨_, column⟩, ts, rfl, rfl, htail⟩ := List.map_eq_cons_iff.mp hts
    obtain ⟨⟨_, column'⟩, ts, rfl, rfl, hexpr⟩ := List.map_eq_cons_iff.mp htail
    have he := he.reads_to stop ts hexpr (hrest.mono (by decide))
    rw [List.cons_append, List.cons_append, reading_action]
    simp only [resolveVar_name, Except.bind, ne_eq, not_true_eq_false, ↓reduceIte,
      reading_assignment]
    cases ht <;> simp only [he, Reading.build_ok]

/-- What may follow a statement: the end or a semicolon. -/
def EndsStatement (ts : List Placed) : Prop := ∀ t ∈ ts.head?, t.token = .semicolon

theorem EndsStatement.looser {ts : List Placed} (h : EndsStatement ts) : Looser 1 ts :=
  fun t ht => by simp [h t ht, Token.rank]

theorem endsStatement_cons (column : Nat) (ts : List Placed) :
    EndsStatement (⟨.semicolon, column⟩ :: ts) := by simp [EndsStatement]

theorem guardTail_stops (stop : Nat) {ts : List Placed} (h : EndsStatement ts) :
    tailReading (guardTail stop ts) = .ok (none, ts) := by
  rw [tailReading_guardTail]
  split <;> first | rfl | simp [EndsStatement] at h

theorem guardTail_guard (stop column : Nat) (negated : Bool) (ts : List Placed) :
    tailReading (guardTail stop (⟨guardToken negated, column⟩ :: ts)) =
      (reading (cond stop ts)).build fun c => some ⟨negated, c⟩ := by
  rw [tailReading_guardTail]
  cases negated <;> rfl

theorem DerivesStatement.reads (stop : Nat) {us : List Token} {s : Statement}
    (h : DerivesStatement us s) (ts : List Placed) (hts : ts.map Placed.token = us)
    {rest : List Placed} (hrest : EndsStatement rest) :
    reading (statement stop (ts ++ rest)) = .ok (s, rest) := by
  cases h with
  | bare ha =>
    rw [reading_statement, ha.reads stop ts hts hrest.looser, Reading.next_ok,
      guardTail_stops stop hrest, Reading.build_ok]
  | guarded negated ha hc =>
    obtain ⟨us, column, vs, rfl, hus, hvs⟩ := exists_of_tokens_split hts
    have hguard : Looser 1 (⟨guardToken negated, column⟩ :: (vs ++ rest)) := by
      cases negated <;> simp [looser_cons, guardToken, Token.rank]
    rw [List.append_assoc, List.cons_append, reading_statement, ha.reads stop us hus hguard,
      Reading.next_ok, guardTail_guard, hc.reads stop vs hvs (hrest.looser.mono (by decide)),
      orTail_stops stop _ hrest.looser, Reading.build_ok, Reading.build_ok]

theorem DerivesStatement.reads_statements (stop : Nat) {us : List Token} {s : Statement}
    (h : DerivesStatement us s) (ts : List Placed) (hts : ts.map Placed.token = us)
    {rest : List Placed} (hrest : EndsStatement rest) :
    statements stop (ts ++ rest) = (statements stop rest).map (s :: ·) := by
  have hread := h.reads stop ts hts hrest
  obtain ⟨t, us, rfl, ht⟩ := h.first
  obtain ⟨t, ts, rfl, rfl, _⟩ := List.map_eq_cons_iff.mp hts
  have hsemi : t.token ≠ .semicolon := by
    intro he
    rw [he] at ht
    cases ht
  rw [List.cons_append, statements_cons stop hsemi, ← List.cons_append, hread]
  rcases rest with _ | ⟨u, rest⟩
  · rw [statements_nil]
    rfl
  · have hu : u.token = .semicolon := hrest u rfl
    rw [statements_semicolon stop hu]
    exact if_pos hu

/-- The tokens of a script, before the end or a semicolon, are read as the script. -/
theorem DerivesScript.reads_statements (stop : Nat) {us : List Token} {p : Script}
    (h : DerivesScript us p) (ts : List Placed) (hts : ts.map Placed.token = us)
    {rest : List Placed} (hrest : EndsStatement rest) :
    statements stop (ts ++ rest) = (statements stop rest).map (p ++ ·) := by
  have first : ∀ {us p ts} {rest : List Placed}, DerivesOptional us p →
      ts.map Placed.token = us → EndsStatement rest →
      statements stop (ts ++ rest) = (statements stop rest).map (p ++ ·) := by
    intro us p ts rest h hts hrest
    cases h with
    | none =>
      rw [List.map_eq_nil_iff.mp hts]
      rcases hs : statements stop rest with e | q <;> simp [hs, Except.map]
    | some h => exact h.reads_statements stop ts hts hrest
  induction h generalizing ts with
  | last h => exact first h hts hrest
  | cons h _ ih =>
    obtain ⟨us, column, vs, rfl, hus, hvs⟩ := exists_of_tokens_split hts
    rw [List.append_assoc, List.cons_append, first h hus (endsStatement_cons column _),
      statements_semicolon stop rfl, ih vs hvs]
    rcases statements stop rest with e | q <;> simp [Except.map]

theorem DerivesScript.parses (stop : Nat) {ts : List Placed} {p : Script}
    (h : DerivesScript (ts.map Placed.token) p) : statements stop ts = .ok p := by
  have hend : EndsStatement [] := by simp [EndsStatement]
  have hall := h.reads_statements stop ts rfl hend
  rw [List.append_nil, statements_nil] at hall
  rw [hall, Except.map, List.append_nil]

/-! ## The parser accepts the grammar -/

/-- Parsing succeeds exactly on the tokens of scripts, with the one script that they derive; no
token is left. -/
theorem statements_accept_grammar (stop : Nat) (ts : List Placed) :
    (∀ p, statements stop ts = .ok p ↔ DerivesScript (ts.map Placed.token) p) ∧
    ∀ p q, DerivesScript (ts.map Placed.token) p → DerivesScript (ts.map Placed.token) q →
      p = q := by
  refine ⟨fun p => ⟨statements_sound stop ts, fun h => h.parses stop⟩, fun p q hp hq => ?_⟩
  have := (hp.parses stop).symm.trans (hq.parses stop)
  exact Except.ok.inj this

/-- Points group to the left, and of the conditions `!` binds closest and `||` least. -/
theorem statements_accept_grammar_precedence :
    statements 1 ([.var Var.value.name, .dotAssign, .plain ['a'], .dot, .var Var.file.name, .dot,
        .int 1, .ifWord, .bang, .var Var.length.name, .orOr, .var Var.value.name, .eqWord,
        .plain ['x'], .andAnd, .var Var.seconds.name, .lt, .int 9, .semicolon].map (⟨·, 1⟩)) =
      .ok [⟨.append (.concat (.concat (.plain ['a']) (.var .file)) (.int 1)),
        some ⟨false, .or (.not (.truthy (.var .length)))
          (.and (.text (.var .value) false (.plain ['x']))
            (.number (.var .seconds) .lt (.int 9)))⟩⟩] := by
  have hexpr := ((DerivesExpr.atom (.plain ['a'])).concat (.var .file)).concat (.int 1)
  have hnot := DerivesUnary.not (.truthy (.atom (.var .length)))
  have htext := DerivesUnary.text false (.atom (.var .value)) (.atom (.plain ['x']))
  have hnumber := DerivesUnary.number .lt (.atom (.var .seconds)) (.atom (.int 9))
  have hcond := (DerivesCond.and (.unary hnot)).or ((DerivesAnd.unary htext).and hnumber)
  have hstatement := DerivesStatement.guarded false (.assign .append hexpr) hcond
  exact ((statements_accept_grammar 1 _).1 _).mpr (.cons (.some hstatement) (.last .none))

/-- A text whose tokens derive a script is parsed as that script. -/
theorem parse_of_lexes {source : Text} {us : List Token} {p : Script} (h : Lexes source us)
    (hp : DerivesScript us p) : Script.parse source = .ok p := by
  obtain ⟨ts, hts, rfl⟩ := h 1
  have htokens : tokenize source = .ok ts := hts
  unfold Script.parse
  rw [htokens]
  exact hp.parses ts.stop

end TagEdit.Script
