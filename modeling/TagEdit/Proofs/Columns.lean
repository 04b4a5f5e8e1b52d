import TagEdit.Proofs.Reading

/-!
# Columns do not matter to the parser

Whatever a map `f` does to the columns of tokens, the parser reads the same
values from the moved tokens, and an error is moved as well. So a reader decides
by tokens alone, and an error lies at the column of a token or at the end.
-/

namespace TagEdit.Script

variable {α β : Type} (f : Nat → Nat)

/-- A token at another column. -/
def Placed.moved (t : Placed) : Placed := { t with column := f t.column }

/-- Tokens at other columns. -/
def movedAll (ts : List Placed) : List Placed := ts.map (Placed.moved f)

def SyntaxError.moved (e : SyntaxError) : SyntaxError := { e with column := f e.column }

def Reading.moved : Reading α → Reading α
  | .error e => .error (e.moved f)
  | .ok (a, ts) => .ok (a, movedAll f ts)

variable {f}

@[simp] theorem movedAll_nil : movedAll f [] = [] := rfl

@[simp] theorem movedAll_cons (t : Placed) (ts : List Placed) :
    movedAll f (t :: ts) = t.moved f :: movedAll f ts := rfl

theorem Reading.moved_next {r r' : Reading α} {g g' : α → List Placed → Reading β}
    (hr : r' = r.moved f)
    (hg : ∀ a ts, r = .ok (a, ts) → g' a (movedAll f ts) = (g a ts).moved f) :
    r'.next g' = (r.next g).moved f := by
  subst hr
  rcases r with e | ⟨a, ts⟩
  · rfl
  · exact hg a ts rfl

theorem Reading.moved_build {r r' : Reading α} (g : α → β) (hr : r' = r.moved f) :
    r'.build g = (r.build g).moved f := by
  subst hr
  rcases r with e | ⟨a, ts⟩ <;> rfl

theorem moved_placeAt (column : Nat) (r : Except Cause α) (g : α → β) (ts : List Placed) :
    (placeAt (f column) r).map (fun a => (g a, movedAll f ts)) =
      Reading.moved f ((placeAt column r).map fun a => (g a, ts)) := by
  rcases r with e | a <;> rfl

theorem moved_resolveVar (name : Text) (column : Nat) :
    (∃ v, resolveVar name column = .ok v ∧ resolveVar name (f column) = .ok v) ∨
    ∃ e : SyntaxError, resolveVar name column = .error e ∧
      resolveVar name (f column) = .error (e.moved f) := by
  unfold resolveVar
  rcases Var.ofName? name with _ | v
  · exact .inr ⟨_, rfl, rfl⟩
  · exact .inl ⟨v, rfl, rfl⟩

theorem moved_expect (stop : Nat) (t : Token) (ts : List Placed) :
    reading (expect (f stop) t (movedAll f ts)) = (reading (expect stop t ts)).moved f := by
  rw [reading_expect, reading_expect]
  rcases ts with _ | ⟨u, rest⟩
  · rfl
  · simp only [movedAll_cons, Placed.moved]
    split <;> rfl

theorem moved_matchRegex (stop : Nat) (ts : List Placed) :
    reading (matchRegex (f stop) (movedAll f ts)) = (reading (matchRegex stop ts)).moved f := by
  rw [reading_matchRegex, reading_matchRegex]
  rcases ts with _ | ⟨⟨t, column⟩, rest⟩
  · rfl
  · cases t <;> first | rfl | exact moved_placeAt column _ id rest

/-! ## Expressions -/

mutual

theorem moved_atom (stop : Nat) : (ts : List Placed) →
    reading (atom (f stop) (movedAll f ts)) = (reading (atom stop ts)).moved f
  | [] => by rw [reading_atom, reading_atom]; rfl
  | ⟨t, column⟩ :: rest => by
    rw [reading_atom, reading_atom]
    cases t <;> try rfl
    case interpolated body => exact moved_placeAt column _ _ rest
    case var name =>
      rcases moved_resolveVar (f := f) name column with ⟨v, h, h'⟩ | ⟨e, h, h'⟩ <;>
        simp only [movedAll_cons, Placed.moved, h, h'] <;> rfl
    case ident name =>
      simp only [movedAll_cons, Placed.moved]
      rcases Func.ofName? name with _ | g
      · rfl
      · refine Reading.moved_next (moved_expect stop _ rest) fun _ opened ho => ?_
        have := reading_shorter ho
        refine Reading.moved_next (moved_expr stop opened) fun arg closing _ => ?_
        exact Reading.moved_build _ (moved_expect stop _ closing)
termination_by ts => (ts.length, 0)

theorem moved_expr (stop : Nat) (ts : List Placed) :
    reading (expr (f stop) (movedAll f ts)) = (reading (expr stop ts)).moved f := by
  rw [reading_expr, reading_expr]
  refine Reading.moved_next (moved_atom stop ts) fun a rest ha => ?_
  have := reading_shorter ha
  exact moved_exprTail stop a rest
termination_by (ts.length, 1)

theorem moved_exprTail (stop : Nat) (lhs : Expr) : (ts : List Placed) →
    tailReading (exprTail (f stop) lhs (movedAll f ts)) =
      (tailReading (exprTail stop lhs ts)).moved f
  | [] => by rw [tailReading_exprTail, tailReading_exprTail]; rfl
  | ⟨t, column⟩ :: rest => by
    rw [tailReading_exprTail, tailReading_exprTail]
    cases t <;> try rfl
    refine Reading.moved_next (moved_atom stop rest) fun a after ha => ?_
    have := reading_shorter ha
    exact moved_exprTail stop _ after
termination_by ts => (ts.length, 0)

end

/-! ## Conditions -/

theorem moved_comparisonTail (stop : Nat) (lhs : Expr) (ts : List Placed) :
    tailReading (comparisonTail (f stop) lhs (movedAll f ts)) =
      (tailReading (comparisonTail stop lhs ts)).moved f := by
  rw [tailReading_comparisonTail, tailReading_comparisonTail]
  rcases ts with _ | ⟨t, rest⟩
  · rfl
  simp only [movedAll_cons, Placed.moved]
  split
  · exact Reading.moved_build _ (moved_matchRegex stop rest)
  rcases textOp? t.token with _ | negated
  · rcases numOp? t.token with _ | op
    · rfl
    · exact Reading.moved_build _ (moved_expr stop rest)
  · exact Reading.moved_build _ (moved_expr stop rest)

theorem moved_comparison (stop : Nat) (ts : List Placed) :
    reading (comparison (f stop) (movedAll f ts)) = (reading (comparison stop ts)).moved f := by
  rw [reading_comparison, reading_comparison]
  exact Reading.moved_next (moved_expr stop ts) fun e rest _ => moved_comparisonTail stop e rest

mutual

theorem moved_unaryCond (stop : Nat) : (ts : List Placed) →
    reading (unaryCond (f stop) (movedAll f ts)) = (reading (unaryCond stop ts)).moved f
  | [] => by
    rw [reading_unaryCond, reading_unaryCond]
    exact moved_comparison stop []
  | ⟨t, column⟩ :: rest => by
    rw [reading_unaryCond, reading_unaryCond]
    cases t <;> try exact moved_comparison stop (⟨_, column⟩ :: rest)
    case bang => exact Reading.moved_build _ (moved_unaryCond stop rest)
    case openParen =>
      refine Reading.moved_next (moved_cond stop rest) fun c closing _ => ?_
      exact Reading.moved_build _ (moved_expect stop _ closing)
    case matching pattern flags =>
      exact Reading.moved_build _
        (moved_matchRegex stop (⟨.matching pattern flags, column⟩ :: rest))
termination_by ts => (ts.length, 0)

theorem moved_andCond (stop : Nat) (ts : List Placed) :
    reading (andCond (f stop) (movedAll f ts)) = (reading (andCond stop ts)).moved f := by
  rw [reading_andCond, reading_andCond]
  refine Reading.moved_next (moved_unaryCond stop ts) fun c rest hc => ?_
  have := reading_shorter hc
  exact moved_andTail stop c rest
termination_by (ts.length, 1)

theorem moved_andTail (stop : Nat) (lhs : Cond) : (ts : List Placed) →
    tailReading (andTail (f stop) lhs (movedAll f ts)) =
      (tailReading (andTail stop lhs ts)).moved f
  | [] => by rw [tailReading_andTail, tailReading_andTail]; rfl
  | ⟨t, column⟩ :: rest => by
    rw [tailReading_andTail, tailReading_andTail]
    cases t <;> try rfl
    refine Reading.moved_next (moved_unaryCond stop rest) fun c after hc => ?_
    have := reading_shorter hc
    exact moved_andTail stop _ after
termination_by ts => (ts.length, 0)

theorem moved_cond (stop : Nat) (ts : List Placed) :
    reading (cond (f stop) (movedAll f ts)) = (reading (cond stop ts)).moved f := by
  rw [reading_cond, reading_cond]
  refine Reading.moved_next (moved_andCond stop ts) fun c rest hc => ?_
  have := reading_shorter hc
  exact moved_orTail stop c rest
termination_by (ts.length, 2)

theorem moved_orTail (stop : Nat) (lhs : Cond) : (ts : List Placed) →
    tailReading (orTail (f stop) lhs (movedAll f ts)) = (tailReading (orTail stop lhs ts)).moved f
  | [] => by rw [tailReading_orTail, tailReading_orTail]; rfl
  | ⟨t, column⟩ :: rest => by
    rw [tailReading_orTail, tailReading_orTail]
    cases t <;> try rfl
    refine Reading.moved_next (moved_andCond stop rest) fun c after hc => ?_
    have := reading_shorter hc
    exact moved_orTail stop _ after
termination_by ts => (ts.length, 0)

end

/-! ## Statements -/

theorem moved_assignment (stop : Nat) (ts : List Placed) :
    reading (assignment (f stop) (movedAll f ts)) = (reading (assignment stop ts)).moved f := by
  rw [reading_assignment, reading_assignment]
  rcases ts with _ | ⟨⟨t, column⟩, rest⟩
  · rfl
  · cases t <;> first | rfl | exact Reading.moved_build _ (moved_expr stop rest)

theorem moved_action (stop : Nat) (ts : List Placed) :
    reading (action (f stop) (movedAll f ts)) = (reading (action stop ts)).moved f := by
  rw [reading_action, reading_action]
  rcases ts with _ | ⟨⟨t, column⟩, rest⟩
  · rfl
  cases t <;> try rfl
  case subst pattern replacement flags =>
    simp only [movedAll_cons, Placed.moved]
    rcases buildRegex substFlags pattern flags with e | r
    · rfl
    · exact moved_placeAt column _ _ rest
  case var name =>
    simp only [movedAll_cons, Placed.moved]
    rcases moved_resolveVar (f := f) name column with ⟨v, h, h'⟩ | ⟨e, h, h'⟩
    · simp only [h, h', Except.bind]
      split
      · rfl
      · exact moved_assignment stop rest
    · simp only [h, h']
      rfl

theorem moved_guardTail (stop : Nat) (ts : List Placed) :
    tailReading (guardTail (f stop) (movedAll f ts)) =
      (tailReading (guardTail stop ts)).moved f := by
  rw [tailReading_guardTail, tailReading_guardTail]
  rcases ts with _ | ⟨⟨t, column⟩, rest⟩
  · rfl
  · cases t <;> first | rfl | exact Reading.moved_build _ (moved_cond stop rest)

theorem moved_statement (stop : Nat) (ts : List Placed) :
    reading (statement (f stop) (movedAll f ts)) = (reading (statement stop ts)).moved f := by
  rw [reading_statement, reading_statement]
  refine Reading.moved_next (moved_action stop ts) fun a rest _ => ?_
  exact Reading.moved_build _ (moved_guardTail stop rest)

/-- Moved tokens make the same script, or the same error at the moved column. -/
theorem statements_moved (stop : Nat) : (ts : List Placed) →
    statements (f stop) (movedAll f ts) = (statements stop ts).mapError (SyntaxError.moved f)
  | [] => by rw [movedAll_nil, statements_nil, statements_nil]; rfl
  | t :: rest => by
    by_cases ht : t.token = .semicolon
    · have ht' : (t.moved f).token = .semicolon := ht
      rw [movedAll_cons, statements_semicolon _ ht', statements_semicolon _ ht]
      exact statements_moved stop rest
    have hst := moved_statement (f := f) stop (t :: rest)
    have ht' : (t.moved f).token ≠ .semicolon := ht
    rw [movedAll_cons] at hst ⊢
    rw [statements_cons _ ht', statements_cons _ ht, hst]
    rcases hs : reading (statement stop (t :: rest)) with e | ⟨s, after⟩
    · rfl
    have hshort := reading_shorter hs
    rcases after with _ | ⟨u, after⟩
    · rfl
    simp only [Reading.moved, Except.bind, movedAll_cons, statementsAfter, Placed.moved]
    split
    · have : after.length < rest.length := by simpa using hshort
      rw [statements_moved stop after]
      rcases statements stop after with e | p <;> rfl
    · rfl
termination_by ts => ts.length

end TagEdit.Script
