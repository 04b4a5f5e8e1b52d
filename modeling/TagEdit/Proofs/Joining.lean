import TagEdit.Editor
import TagEdit.Proofs.Acceptance
import TagEdit.Proofs.Lexing

/-!
# Joining scripts with a semicolon

A semicolon behind an accepted script is a token of its own, although it may
delimit the bodies of a substitution: a script that ended in a lone `s` or `m`
would not have been accepted. The parser goes on behind it as at the front of
the second script, so joining is sequencing.
-/

namespace TagEdit

namespace Script

/-! ## Names in scripts -/

/-- A token that names a function, if it is a name. -/
def Token.Resolves (t : Token) : Prop := ∀ name, t = .ident name → ∃ f : Func, name = f.name

theorem Token.Resolves.not_opens {t : Token} (h : t.Resolves) : ¬ t.Opens := by
  rintro (rfl | rfl)
  · obtain ⟨f, hf⟩ := h _ rfl
    cases f <;> cases hf
  · obtain ⟨f, hf⟩ := h _ rfl
    cases f <;> cases hf

theorem forall_mem_infix {α : Type} {P : α → Prop} {l m : List α} {b : α}
    (hl : ∀ a ∈ l, P a) (hb : P b) (hm : ∀ a ∈ m, P a) : ∀ a ∈ l ++ b :: m, P a := by
  intro a h
  rcases List.mem_append.mp h with h | h
  · exact hl a h
  · rcases List.mem_cons.mp h with rfl | h
    · exact hb
    · exact hm a h

mutual

theorem DerivesAtom.resolves : {ts : List Token} → {e : Expr} → DerivesAtom ts e →
    ∀ t ∈ ts, t.Resolves
  | _, _, .plain _ | _, _, .interpolated _ | _, _, .int _ | _, _, .var _ => by simp [Token.Resolves]
  | _, _, .call f h => by
    have hname : Token.Resolves (.ident f.name) := by
      rintro _ ⟨⟩
      exact ⟨f, rfl⟩
    refine forall_mem_infix (l := [_]) (by simpa using hname) (by simp [Token.Resolves]) ?_
    exact forall_mem_infix h.resolves (by simp [Token.Resolves]) (by simp)

theorem DerivesExpr.resolves : {ts : List Token} → {e : Expr} → DerivesExpr ts e →
    ∀ t ∈ ts, t.Resolves
  | _, _, .atom h => h.resolves
  | _, _, .concat h1 h2 => forall_mem_infix h1.resolves (by simp [Token.Resolves]) h2.resolves

end

mutual

theorem DerivesUnary.resolves : {ts : List Token} → {c : Cond} → DerivesUnary ts c →
    ∀ t ∈ ts, t.Resolves
  | _, _, .not h => forall_mem_infix (l := []) (by simp) (by simp [Token.Resolves]) h.resolves
  | _, _, .paren h => by
    refine forall_mem_infix (l := []) (by simp) (by simp [Token.Resolves]) ?_
    exact forall_mem_infix h.resolves (by simp [Token.Resolves]) (by simp)
  | _, _, .value _ => by simp [Token.Resolves]
  | _, _, .matching negated h _ => by
    refine forall_mem_infix h.resolves ?_ (by simp [Token.Resolves])
    cases negated <;> simp [Token.Resolves, bindToken]
  | _, _, .text negated h1 h2 => by
    refine forall_mem_infix h1.resolves ?_ h2.resolves
    cases negated <;> simp [Token.Resolves, textToken]
  | _, _, .number op h1 h2 => by
    refine forall_mem_infix h1.resolves ?_ h2.resolves
    cases op <;> simp [Token.Resolves, NumOp.token]
  | _, _, .truthy h => h.resolves

theorem DerivesAnd.resolves : {ts : List Token} → {c : Cond} → DerivesAnd ts c →
    ∀ t ∈ ts, t.Resolves
  | _, _, .unary h => h.resolves
  | _, _, .and h1 h2 => forall_mem_infix h1.resolves (by simp [Token.Resolves]) h2.resolves

theorem DerivesCond.resolves : {ts : List Token} → {c : Cond} → DerivesCond ts c →
    ∀ t ∈ ts, t.Resolves
  | _, _, .and h => h.resolves
  | _, _, .or h1 h2 => forall_mem_infix h1.resolves (by simp [Token.Resolves]) h2.resolves

end

theorem DerivesAction.resolves {ts : List Token} {a : Action} (h : DerivesAction ts a) :
    ∀ t ∈ ts, t.Resolves := by
  cases h with
  | last => simp [Token.Resolves]
  | substitute => simp [Token.Resolves]
  | assign ht he =>
    refine forall_mem_infix (l := [_]) (by simp [Token.Resolves]) ?_ he.resolves
    cases ht <;> simp [Token.Resolves]

theorem DerivesStatement.resolves {ts : List Token} {s : Statement} (h : DerivesStatement ts s) :
    ∀ t ∈ ts, t.Resolves := by
  cases h with
  | bare h => exact h.resolves
  | guarded negated ha hc =>
    refine forall_mem_infix ha.resolves ?_ hc.resolves
    cases negated <;> simp [Token.Resolves, guardToken]

theorem DerivesOptional.resolves {ts : List Token} {p : Script} (h : DerivesOptional ts p) :
    ∀ t ∈ ts, t.Resolves := by
  cases h with
  | none => simp
  | some h => exact h.resolves

/-- Every name in a script is the name of a function. -/
theorem DerivesScript.resolves {ts : List Token} {p : Script} (h : DerivesScript ts p) :
    ∀ t ∈ ts, t.Resolves := by
  induction h with
  | last h => exact h.resolves
  | cons h _ ih => exact forall_mem_infix h.resolves (by simp [Token.Resolves]) ih

/-! ## Parsing joined scripts -/

/-- A script joined to an accepted one is parsed as on its own, further on. -/
theorem parse_append_semicolon {a : Text} {p : Script} (ha : Script.parse a = .ok p) (b : Text) :
    Script.parse (a ++ ';' :: b) =
      ((Script.parse b).mapError (SyntaxError.moved (· + (a.length + 1)))).map (p ++ ·) := by
  obtain ⟨ts, hts, hp⟩ := exists_of_bind_eq_ok ha
  have hderives := statements_sound _ _ hp
  have hnames : ∀ t ∈ ts.list, ¬ t.token.Opens := fun t ht =>
    (hderives.resolves _ (List.mem_map_of_mem ht)).not_opens
  have hjoin : tokenize (a ++ ';' :: b) =
      (((tokenize b).map (Tokens.moved (· + (a.length + 1)))).mapError
        (SyntaxError.moved (· + (a.length + 1)))).map fun us =>
          { us with list := ts.list ++ ⟨.semicolon, 1 + a.length⟩ :: us.list } := by
    rw [tokenize, tokensFrom_append_semicolon hts hnames, Nat.add_assoc, tokensFrom_add]
    rfl
  unfold Script.parse
  rw [hjoin]
  rcases tokenize b with e | us
  · rfl
  · have hrest : statements (us.stop + (a.length + 1))
        (ts.list ++ ⟨.semicolon, 1 + a.length⟩ :: movedAll (· + (a.length + 1)) us.list) =
        ((statements us.stop us.list).mapError
          (SyntaxError.moved (· + (a.length + 1)))).map (p ++ ·) := by
      rw [hderives.reads_statements _ _ rfl (endsStatement_cons _ _), statements_semicolon _ rfl,
        ← statements_moved]
    exact hrest

/-! ## Running joined scripts -/

/-- Running statements in a row: the second ones run on the result of the first, unless those end
the chain. -/
theorem run_append (ctx : Context) (value : Text) (p q : Script) :
    run ctx value (p ++ q) =
      match run ctx value p with
      | (v, .stop) => (v, .stop)
      | (v, .proceed) => run ctx v q := by
  induction p generalizing value with
  | nil => rfl
  | cons s p ih =>
    simp only [List.cons_append, run]
    rcases s.run ctx value with ⟨v, _ | _⟩
    · exact ih v
    · rfl

end Script

theorem Step.applyAll_run_append (ctx : Context) (value : Text) (p q : Script) :
    Step.applyAll ctx value [.run (p ++ q)] = Step.applyAll ctx value [.run p, .run q] := by
  simp only [Step.applyAll, Step.apply, Script.run_append]
  rcases Script.run ctx value p with ⟨v, _ | _⟩ <;> rfl

namespace Script

/-- Behind an accepted script, a semicolon and a second script are sequencing: the statements
follow one another, and the editor of the joined fragment does what the editor of both fragments
does. If the second script is refused, so is the joined one, for the same cause, at the place of
that script. -/
theorem join_is_sequencing {a : Text} {p : Script} (ha : Script.parse a = .ok p) (b : Text) :
    (∀ q, Script.parse b = .ok q →
      Script.parse (a ++ ';' :: b) = .ok (p ++ q) ∧
      ∀ field : Field, ∃ joined split : Editor,
        Editor.compile field [.expression (a ++ ';' :: b)] = .ok joined ∧
        Editor.compile field [.expression a, .expression b] = .ok split ∧
        ∀ (ctx : Context) (value : Text), joined.apply ctx value = split.apply ctx value) ∧
    ∀ e, Script.parse b = .error e →
      Script.parse (a ++ ';' :: b) = .error ⟨e.cause, e.column + a.length + 1⟩ := by
  have hjoin := parse_append_semicolon ha b
  refine ⟨fun q hb => ?_, fun e hb => ?_⟩
  · rw [hb] at hjoin
    have hjoin : Script.parse (a ++ ';' :: b) = .ok (p ++ q) := hjoin
    refine ⟨hjoin, fun field => ⟨⟨field, [.run (p ++ q)]⟩, ⟨field, [.run p, .run q]⟩, ?_, ?_, ?_⟩⟩
    · simp only [Editor.compile, Editor.compileSteps, hjoin]
      rfl
    · simp only [Editor.compile, Editor.compileSteps, ha, hb]
      rfl
    · intro ctx value
      simp only [Editor.apply, Step.applyAll_run_append]
  · rw [hb] at hjoin
    exact hjoin

/-- The semicolons of a substitution separate nothing, the one behind it does. -/
theorem join_is_sequencing_delimiter :
    ∃ p, Script.parse "s;a;b;".toList = .ok p ∧
      Script.parse ("s;a;b;".toList ++ ';' :: "last".toList) = .ok (p ++ [⟨.last, none⟩]) ∧
      Script.parse ("s;a;b;".toList ++ ';' :: "$_ = 3.5".toList) =
        .error ⟨.decimalNumber, 13⟩ := by
  obtain ⟨p, hfirst⟩ := exists_of_isOk (r := Script.parse "s;a;b;".toList) (by decide +kernel)
  have hscan : scan 'l' "ast".toList = .ok (.last, []) := rfl
  have hlast : Script.parse "last".toList = .ok [⟨.last, none⟩] :=
    parse_of_lexes (.token (by decide) hscan .nil) (.last (.some (.bare .last)))
  have hfault : Script.parse "$_ = 3.5".toList = .error ⟨.decimalNumber, 6⟩ :=
    eq_error_of_errorOf? (by decide +kernel)
  exact ⟨p, hfirst, ((join_is_sequencing hfirst "last".toList).1 _ hlast).1,
    (join_is_sequencing hfirst "$_ = 3.5".toList).2 _ hfault⟩

end Script

end TagEdit
