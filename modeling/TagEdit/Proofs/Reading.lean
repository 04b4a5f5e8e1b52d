import TagEdit.Script.Parse

/-!
# What the readers return

`reading` and `tailReading` forget that the rest is shorter, so that readers of
different tokens can be compared. Every reader has one equation about its
reading here; later proofs use the equations and open no reader.
-/

namespace TagEdit.Script

theorem exists_of_map_eq_ok {ε α β : Type} {r : Except ε α} {f : α → β} {b : β}
    (h : r.map f = .ok b) : ∃ a, r = .ok a ∧ f a = b := by
  rcases r with e | a
  · cases h
  · cases h; exact ⟨a, rfl, rfl⟩

theorem exists_of_bind_eq_ok {ε α β : Type} {r : Except ε α} {f : α → Except ε β} {b : β}
    (h : r.bind f = .ok b) : ∃ a, r = .ok a ∧ f a = .ok b := by
  rcases r with e | a
  · cases h
  · exact ⟨a, rfl, h⟩

theorem exists_of_isOk {ε α : Type} {r : Except ε α} (h : r.isOk = true) : ∃ a, r = .ok a := by
  rcases r with e | a
  · cases h
  · exact ⟨a, rfl⟩

/-- The error of a result, if it is one. -/
def errorOf? {ε α : Type} : Except ε α → Option ε
  | .error e => some e
  | .ok _ => none

theorem eq_error_of_errorOf? {ε α : Type} {r : Except ε α} {e : ε} (h : errorOf? r = some e) :
    r = .error e := by
  rcases r with e | a
  · cases h; rfl
  · cases h

/-- A value and the tokens left, or an error. -/
abbrev Reading (α : Type) := Except SyntaxError (α × List Placed)

/-- What a reader returns. -/
def reading {α : Type} {ts : List Placed} (r : Parse α ts) : Reading α :=
  r.map fun p => (p.value, p.rest)

/-- What a reader returns that may take nothing. -/
def tailReading {α : Type} {ts : List Placed} (r : Except SyntaxError (ParsedTail α ts)) :
    Reading α :=
  r.map fun p => (p.value, p.rest)

namespace Reading

variable {α β : Type}

/-- One reader after the other. -/
def next (r : Reading α) (f : α → List Placed → Reading β) : Reading β :=
  r.bind fun p => f p.1 p.2

/-- A value made of another. -/
def build (r : Reading α) (f : α → β) : Reading β := r.map fun p => (f p.1, p.2)

@[simp] theorem next_ok (a : α) (rest : List Placed) (f : α → List Placed → Reading β) :
    next (.ok (a, rest)) f = f a rest := rfl

@[simp] theorem build_ok (a : α) (rest : List Placed) (f : α → β) :
    build (.ok (a, rest)) f = .ok (f a, rest) := rfl

theorem next_eq_ok {r : Reading α} {f : α → List Placed → Reading β} {b : β}
    {rest : List Placed} (h : r.next f = .ok (b, rest)) :
    ∃ a ts, r = .ok (a, ts) ∧ f a ts = .ok (b, rest) := by
  rcases r with e | ⟨a, ts⟩
  · cases h
  · exact ⟨a, ts, rfl, h⟩

theorem build_eq_ok {r : Reading α} {f : α → β} {b : β} {rest : List Placed}
    (h : r.build f = .ok (b, rest)) : ∃ a, r = .ok (a, rest) ∧ f a = b := by
  rcases r with e | ⟨a, ts⟩
  · cases h
  · simp only [build_ok, Except.ok.injEq, Prod.mk.injEq] at h
    exact ⟨a, by rw [h.2], h.1⟩

end Reading

theorem reading_shorter {α : Type} {ts rest : List Placed} {r : Parse α ts} {a : α}
    (h : reading r = .ok (a, rest)) : rest.length < ts.length := by
  rcases r with e | p
  · cases h
  · cases h; exact p.shorter

/-! ## Tokens and names -/

theorem reading_expect (stop : Nat) (t : Token) (ts : List Placed) :
    reading (expect stop t ts) = match ts with
      | [] => .error (unexpected stop (.token t) [])
      | u :: rest =>
        if u.token = t then .ok ((), rest)
        else .error (unexpected stop (.token t) (u :: rest)) := by
  unfold expect
  rcases ts with _ | ⟨u, rest⟩
  · rfl
  · dsimp only
    split <;> rfl

theorem Var.name_of_ofName? {name : Text} {v : Var} (h : Var.ofName? name = some v) :
    name = v.name := by
  have hv := List.find?_some h
  exact (eq_of_beq hv).symm

theorem Func.name_of_ofName? {name : Text} {f : Func} (h : Func.ofName? name = some f) :
    name = f.name := by
  have hf := List.find?_some h
  exact (eq_of_beq hf).symm

theorem resolveVar_name (v : Var) (column : Nat) : resolveVar v.name column = .ok v := by
  unfold resolveVar
  rw [Var.ofName?_name]

theorem name_of_resolveVar {name : Text} {column : Nat} {v : Var}
    (h : resolveVar name column = .ok v) : name = v.name := by
  unfold resolveVar at h
  split at h
  · rename_i w hw
    cases h
    exact Var.name_of_ofName? hw
  · cases h

theorem placeAt_eq_ok {α : Type} {column : Nat} {r : Except Cause α} {a : α}
    (h : placeAt column r = .ok a) : r = .ok a := by
  rcases r with e | b
  · cases h
  · cases h; rfl

/-! ## Patterns -/

theorem reading_matchRegex (stop : Nat) (ts : List Placed) :
    reading (matchRegex stop ts) = match ts with
      | ⟨.matching pattern flags, column⟩ :: rest =>
        (placeAt column (buildRegex matchFlags pattern flags)).map fun r => (r, rest)
      | ts => .error (unexpected stop .matching ts) := by
  rcases ts with _ | ⟨⟨t, column⟩, rest⟩
  · rfl
  · cases t <;> try rfl
    rename_i pattern flags
    unfold matchRegex
    dsimp only
    rcases placeAt column (buildRegex matchFlags pattern flags) with e | r <;> rfl

/-! ## Expressions -/

theorem reading_atom (stop : Nat) (ts : List Placed) :
    reading (atom stop ts) = match ts with
      | ⟨.plain t, _⟩ :: rest => .ok (.plain t, rest)
      | ⟨.interpolated body, column⟩ :: rest =>
        (placeAt column (Template.parse false body)).map fun ps => (.template ps, rest)
      | ⟨.int n, _⟩ :: rest => .ok (.int n, rest)
      | ⟨.var name, column⟩ :: rest => (resolveVar name column).map fun v => (.var v, rest)
      | ⟨.ident name, column⟩ :: rest =>
        match Func.ofName? name with
        | none => .error ⟨.unknownFunction name, column⟩
        | some f =>
          (reading (expect stop .openParen rest)).next fun _ opened =>
          (reading (expr stop opened)).next fun arg closing =>
          (reading (expect stop .closeParen closing)).build fun _ => .call f arg
      | ts => .error (unexpected stop .value ts) := by
  rw [atom.eq_def]
  rcases ts with _ | ⟨⟨t, column⟩, rest⟩
  · rfl
  cases t <;> try rfl
  case interpolated body =>
    dsimp only
    rcases placeAt column (Template.parse false body) with e | ps <;> rfl
  case var name =>
    dsimp only
    rcases resolveVar name column with e | v <;> rfl
  case ident name =>
    dsimp only
    rcases Func.ofName? name with _ | f
    · rfl
    dsimp only
    rcases expect stop .openParen rest with e | opened
    · rfl
    simp only [bind, Except.bind, reading, Except.map, Reading.next_ok]
    rcases expr stop opened.rest with e | arg
    · rfl
    simp only [Reading.next_ok]
    rcases expect stop .closeParen arg.rest with e | closed <;> rfl

theorem reading_expr (stop : Nat) (ts : List Placed) :
    reading (expr stop ts) =
      (reading (atom stop ts)).next fun a rest => tailReading (exprTail stop a rest) := by
  rw [expr]
  rcases atom stop ts with e | a
  · rfl
  · simp only [bind, Except.bind, reading, Except.map, Reading.next_ok]
    rcases exprTail stop a.value a.rest with e | r <;> rfl

theorem tailReading_exprTail (stop : Nat) (lhs : Expr) (ts : List Placed) :
    tailReading (exprTail stop lhs ts) = match ts with
      | ⟨.dot, _⟩ :: rest => (reading (atom stop rest)).next fun a rest =>
          tailReading (exprTail stop (.concat lhs a) rest)
      | ts => .ok (lhs, ts) := by
  rw [exprTail.eq_def]
  rcases ts with _ | ⟨⟨t, column⟩, rest⟩
  · rfl
  cases t <;> try rfl
  dsimp only
  rcases atom stop rest with e | a
  · rfl
  · simp only [bind, Except.bind, reading, tailReading, Except.map, Reading.next_ok]
    rcases exprTail stop (.concat lhs a.value) a.rest with e | r <;> rfl

/-! ## Conditions -/

theorem tailReading_comparisonTail (stop : Nat) (lhs : Expr) (ts : List Placed) :
    tailReading (comparisonTail stop lhs ts) = match ts with
      | [] => .ok (.truthy lhs, [])
      | t :: rest =>
        if t.token = .bindMatch ∨ t.token = .bindNotMatch then
          (reading (matchRegex stop rest)).build fun r =>
            .matching lhs r (t.token = .bindNotMatch)
        else match textOp? t.token with
          | some negated => (reading (expr stop rest)).build fun e => .text lhs negated e
          | none => match numOp? t.token with
            | some op => (reading (expr stop rest)).build fun e => .number lhs op e
            | none => .ok (.truthy lhs, t :: rest) := by
  rcases ts with _ | ⟨t, rest⟩
  · rfl
  unfold comparisonTail
  dsimp only
  split
  · rcases matchRegex stop rest with e | r <;> rfl
  · rcases textOp? t.token with _ | negated
    · rcases numOp? t.token with _ | op
      · rfl
      · dsimp only
        rcases expr stop rest with e | r <;> rfl
    · dsimp only
      rcases expr stop rest with e | r <;> rfl

theorem reading_comparison (stop : Nat) (ts : List Placed) :
    reading (comparison stop ts) =
      (reading (expr stop ts)).next fun e rest => tailReading (comparisonTail stop e rest) := by
  unfold comparison
  rcases expr stop ts with e | a
  · rfl
  · simp only [bind, Except.bind, reading, Except.map, Reading.next_ok]
    rcases comparisonTail stop a.value a.rest with e | r <;> rfl

theorem reading_unaryCond (stop : Nat) (ts : List Placed) :
    reading (unaryCond stop ts) = match ts with
      | ⟨.bang, _⟩ :: rest => (reading (unaryCond stop rest)).build .not
      | ⟨.openParen, _⟩ :: rest =>
        (reading (cond stop rest)).next fun c closing =>
        (reading (expect stop .closeParen closing)).build fun _ => c
      | ⟨.matching pattern flags, column⟩ :: rest =>
        (reading (matchRegex stop (⟨.matching pattern flags, column⟩ :: rest))).build fun r =>
          .matching (.var .value) r false
      | ts => reading (comparison stop ts) := by
  rw [unaryCond.eq_def]
  rcases ts with _ | ⟨⟨t, column⟩, rest⟩
  · rfl
  cases t <;> try rfl
  case matching pattern flags =>
    dsimp only
    rcases matchRegex stop (⟨.matching pattern flags, column⟩ :: rest) with e | r <;> rfl
  case openParen =>
    dsimp only
    rcases cond stop rest with e | c
    · rfl
    · simp only [bind, Except.bind, reading, Except.map, Reading.next_ok]
      rcases expect stop .closeParen c.rest with e | closed <;> rfl
  case bang =>
    dsimp only
    rcases unaryCond stop rest with e | c <;> rfl

theorem reading_andCond (stop : Nat) (ts : List Placed) :
    reading (andCond stop ts) =
      (reading (unaryCond stop ts)).next fun c rest => tailReading (andTail stop c rest) := by
  rw [andCond]
  rcases unaryCond stop ts with e | a
  · rfl
  · simp only [bind, Except.bind, reading, Except.map, Reading.next_ok]
    rcases andTail stop a.value a.rest with e | r <;> rfl

theorem tailReading_andTail (stop : Nat) (lhs : Cond) (ts : List Placed) :
    tailReading (andTail stop lhs ts) = match ts with
      | ⟨.andAnd, _⟩ :: rest => (reading (unaryCond stop rest)).next fun c rest =>
          tailReading (andTail stop (.and lhs c) rest)
      | ts => .ok (lhs, ts) := by
  rw [andTail.eq_def]
  rcases ts with _ | ⟨⟨t, column⟩, rest⟩
  · rfl
  cases t <;> try rfl
  dsimp only
  rcases unaryCond stop rest with e | a
  · rfl
  · simp only [bind, Except.bind, reading, tailReading, Except.map, Reading.next_ok]
    rcases andTail stop (.and lhs a.value) a.rest with e | r <;> rfl

theorem reading_cond (stop : Nat) (ts : List Placed) :
    reading (cond stop ts) =
      (reading (andCond stop ts)).next fun c rest => tailReading (orTail stop c rest) := by
  rw [cond]
  rcases andCond stop ts with e | a
  · rfl
  · simp only [bind, Except.bind, reading, Except.map, Reading.next_ok]
    rcases orTail stop a.value a.rest with e | r <;> rfl

theorem tailReading_orTail (stop : Nat) (lhs : Cond) (ts : List Placed) :
    tailReading (orTail stop lhs ts) = match ts with
      | ⟨.orOr, _⟩ :: rest => (reading (andCond stop rest)).next fun c rest =>
          tailReading (orTail stop (.or lhs c) rest)
      | ts => .ok (lhs, ts) := by
  rw [orTail.eq_def]
  rcases ts with _ | ⟨⟨t, column⟩, rest⟩
  · rfl
  cases t <;> try rfl
  dsimp only
  rcases andCond stop rest with e | a
  · rfl
  · simp only [bind, Except.bind, reading, tailReading, Except.map, Reading.next_ok]
    rcases orTail stop (.or lhs a.value) a.rest with e | r <;> rfl

/-! ## Statements -/

theorem reading_assignment (stop : Nat) (ts : List Placed) :
    reading (assignment stop ts) = match ts with
      | ⟨.assign, _⟩ :: rest => (reading (expr stop rest)).build .assign
      | ⟨.dotAssign, _⟩ :: rest => (reading (expr stop rest)).build .append
      | ts => .error (unexpected stop .assignment ts) := by
  rcases ts with _ | ⟨⟨t, column⟩, rest⟩
  · rfl
  cases t <;> try rfl
  all_goals
    unfold assignment
    dsimp only
    rcases expr stop rest with e | r <;> rfl

theorem reading_action (stop : Nat) (ts : List Placed) :
    reading (action stop ts) = match ts with
      | ⟨.last, _⟩ :: rest => .ok (.last, rest)
      | ⟨.subst pattern replacement flags, column⟩ :: rest =>
        (placeAt column (buildRegex substFlags pattern flags)).bind fun r =>
        (placeAt column (Template.parse true replacement)).map fun ps =>
          (.substitute r ps (flags.contains 'g'), rest)
      | ⟨.var name, column⟩ :: rest =>
        (resolveVar name column).bind fun v =>
          if v ≠ .value then .error ⟨.readOnly name, column⟩
          else reading (assignment stop rest)
      | ⟨.matching _ _, column⟩ :: _ => .error ⟨.bareMatch, column⟩
      | ts => .error (unexpected stop .statement ts) := by
  rcases ts with _ | ⟨⟨t, column⟩, rest⟩
  · rfl
  cases t <;> try rfl
  case subst pattern replacement flags =>
    unfold action
    dsimp only
    rcases placeAt column (buildRegex substFlags pattern flags) with e | r
    · rfl
    simp only [bind, Except.bind]
    rcases placeAt column (Template.parse true replacement) with e | ps <;> rfl
  case var name =>
    unfold action
    dsimp only
    rcases resolveVar name column with e | v
    · rfl
    simp only [bind, Except.bind]
    split
    · rfl
    · rcases assignment stop rest with e | a <;> rfl

theorem tailReading_guardTail (stop : Nat) (ts : List Placed) :
    tailReading (guardTail stop ts) = match ts with
      | ⟨.ifWord, _⟩ :: rest => (reading (cond stop rest)).build fun c => some ⟨false, c⟩
      | ⟨.unlessWord, _⟩ :: rest => (reading (cond stop rest)).build fun c => some ⟨true, c⟩
      | ts => .ok (none, ts) := by
  rcases ts with _ | ⟨⟨t, column⟩, rest⟩
  · rfl
  cases t <;> try rfl
  all_goals
    unfold guardTail
    dsimp only
    rcases cond stop rest with e | r <;> rfl

theorem reading_statement (stop : Nat) (ts : List Placed) :
    reading (statement stop ts) =
      (reading (action stop ts)).next fun a rest =>
        (tailReading (guardTail stop rest)).build fun g => ⟨a, g⟩ := by
  unfold statement
  rcases action stop ts with e | a
  · rfl
  · simp only [bind, Except.bind, reading, Except.map, Reading.next_ok]
    rcases guardTail stop a.rest with e | g <;> rfl

theorem statements_nil (stop : Nat) : statements stop [] = .ok [] := by rw [statements]

theorem statements_semicolon (stop : Nat) {t : Placed} (ht : t.token = .semicolon)
    (rest : List Placed) : statements stop (t :: rest) = statements stop rest := by
  rw [statements, if_pos ht]

/-- What follows a statement: the end, or a semicolon and more statements. -/
def statementsAfter (stop : Nat) (s : Statement) : List Placed → Except SyntaxError Script
  | [] => .ok [s]
  | t :: rest =>
    if t.token = .semicolon then (statements stop rest).map (s :: ·)
    else .error (unexpected stop .separator (t :: rest))

theorem statements_cons (stop : Nat) {t : Placed} (ht : t.token ≠ .semicolon)
    (rest : List Placed) : statements stop (t :: rest) =
      (reading (statement stop (t :: rest))).bind fun r => statementsAfter stop r.1 r.2 := by
  rw [statements, if_neg ht]
  rcases statement stop (t :: rest) with e | ⟨s, after, shorter⟩
  · rfl
  rcases after with _ | ⟨u, after⟩
  · rfl
  simp only [bind, Except.bind, reading, Except.map, statementsAfter]
  split
  · rcases statements stop after with e | p <;> rfl
  · rfl

end TagEdit.Script
