import TagEdit.Proofs.Acceptance
import TagEdit.Proofs.Pipeline

/-!
# Spelling values

A value that is made of texts and variables can be written in three ways: as one
double-quoted string, as a chain of single-quoted strings and variables, and as
the replacement of a substitution. Each has an escaping of its own, and all of
them denote the value, whatever characters the texts consist of.
-/

namespace TagEdit

namespace Script

open Unicode

/-! ## Pieces and their spellings -/

/-- A part of a value that is to be written. -/
inductive Piece where
  | text (t : Text)
  | var (v : Var)
  deriving DecidableEq, Repr

/-- A text with a backslash before each of some characters. -/
def backslashed (special : List Char) (t : Text) : Text :=
  t.flatMap fun c => if c ∈ special then ['\\', c] else [c]

namespace Piece

/-- What a piece stands for. -/
def read (value : Text) (ctx : Context) : Piece → Text
  | .text t => t
  | .var v => v.read value ctx

/-- A piece in a template whose body `d` ends. -/
def inTemplate (d : Char) : Piece → Text
  | .text t => backslashed ['\\', '$', d] t
  | .var v => '$' :: '{' :: (v.name ++ ['}'])

/-- A piece as an atom. -/
def asAtom : Piece → Text
  | .text t => '\'' :: (backslashed ['\\', '\''] t ++ ['\''])
  | .var v => '$' :: v.name

end Piece

/-- What pieces stand for. -/
def readPieces (value : Text) (ctx : Context) (ps : List Piece) : Text :=
  ps.flatMap (Piece.read value ctx)

/-- Pieces as the body of a template that `d` ends. -/
def templateBody (d : Char) (ps : List Piece) : Text := ps.flatMap (Piece.inTemplate d)

/-- The assignment of one double-quoted string. -/
def quotedAssignment (ps : List Piece) : Text :=
  "$_ = \"".toList ++ templateBody '"' ps ++ ['"']

/-- The assignment of a chain of single-quoted strings and variables. -/
def chainedAssignment (ps : List Piece) : Text :=
  "$_ = ".toList ++ " . ".toList.intercalate (ps.map Piece.asAtom)

/-- A substitution with given delimiter whose replacement is made of pieces. -/
def substitution (d : Char) (pattern : Text) (ps : List Piece) (flags : Text) : Text :=
  's' :: d :: (pattern ++ d :: (templateBody d ps ++ d :: flags))

/-! ## Templates read back -/

theorem escape_of_not_isAlphanumeric {c : Char} (hc : isAlphanumeric c = false) :
    escape c = .ok (.inr c) := by
  unfold escape
  split
  case h_9 => rw [hc]; rfl
  all_goals cases hc

theorem parse_escaped {c : Char} (hc : isAlphanumeric c = false) (groups : Bool) (cs : Text) :
    Template.parse groups ('\\' :: c :: cs) =
      (Template.parse groups cs).map (Template.consChar c) := by
  rw [Template.parse]
  simp only [escape_of_not_isAlphanumeric hc, if_true]

theorem parse_plain {c : Char} (hb : c ≠ '\\') (hv : c ≠ '$') (groups : Bool) (cs : Text) :
    Template.parse groups (c :: cs) = (Template.parse groups cs).map (Template.consChar c) := by
  rw [Template.parse.eq_def]
  simp only [if_neg hb, if_neg hv]

/-- A dollar sign with the name of something that can be referred to. -/
theorem parse_reference {groups : Bool} {name cs rest : Text} {p : Part}
    (hname : readName cs = .ok (some (name, rest))) (href : reference groups name = .ok p) :
    Template.parse groups ('$' :: cs) = (Template.parse groups rest).map (p :: ·) := by
  rw [Template.parse.eq_def]
  simp only [Char.reduceEq, if_false, if_true]
  split
  · rename_i heq
    rw [hname] at heq
    cases heq
  · rename_i heq
    rw [hname] at heq
    cases heq
  · rename_i r heq
    rw [hname] at heq
    cases heq
    rw [href]

theorem parse_braced (v : Var) (groups : Bool) (cs : Text) :
    Template.parse groups ('$' :: '{' :: (v.name ++ '}' :: cs)) =
      (Template.parse groups cs).map (.var v :: ·) := by
  have hname : readName ('{' :: (v.name ++ '}' :: cs)) = .ok (some (v.name, cs)) := by
    cases v <;> rfl
  exact parse_reference hname (by cases v <;> rfl)

/-! ## Pieces in templates -/

/-- The template that pieces are read back as. -/
def templateOf : List Piece → Template
  | [] => []
  | .text t :: ps => t.foldr Template.consChar (templateOf ps)
  | .var v :: ps => .var v :: templateOf ps

theorem parse_backslashed {special : List Char}
    (hspecial : ∀ c ∈ special, isAlphanumeric c = false) (hb : '\\' ∈ special)
    (hv : '$' ∈ special) (groups : Bool) (t rest : Text) :
    Template.parse groups (backslashed special t ++ rest) =
      (Template.parse groups rest).map (t.foldr Template.consChar) := by
  induction t with
  | nil =>
    show Template.parse groups rest = _
    rcases Template.parse groups rest with cause | q <;> rfl
  | cons c t ih =>
    have hrest : (Template.parse groups (backslashed special t ++ rest)).map
        (Template.consChar c) =
          (Template.parse groups rest).map ((c :: t).foldr Template.consChar) := by
      rw [ih]
      rcases Template.parse groups rest with cause | q <;> rfl
    by_cases hc : c ∈ special
    · rw [backslashed, List.flatMap_cons, if_pos hc]
      exact (parse_escaped (hspecial c hc) groups _).trans hrest
    · have hne : c ≠ '\\' ∧ c ≠ '$' :=
        ⟨fun h => hc (h ▸ hb), fun h => hc (h ▸ hv)⟩
      rw [backslashed, List.flatMap_cons, if_neg hc]
      exact (parse_plain hne.1 hne.2 groups _).trans hrest

/-- The body of pieces is read back as the pieces. -/
theorem parse_templateBody {d : Char} (hd : isDelimiter d = true) (groups : Bool)
    (ps : List Piece) : Template.parse groups (templateBody d ps) = .ok (templateOf ps) := by
  have hspecial : ∀ c ∈ ['\\', '$', d], isAlphanumeric c = false := by
    intro c hc
    simp only [List.mem_cons, List.not_mem_nil, or_false] at hc
    rcases hc with rfl | rfl | rfl
    · decide
    · decide
    · exact isAlphanumeric_of_isPunctuation (isPunctuation_of_isDelimiter hd)
  induction ps with
  | nil => rw [templateBody, List.flatMap_nil, Template.parse, templateOf]
  | cons p ps ih =>
    rw [templateBody, List.flatMap_cons]
    cases p with
    | text t =>
      refine (parse_backslashed hspecial (by simp) (by simp) groups t _).trans ?_
      exact congrArg (Except.map _) ih
    | var v =>
      have hbraced : Piece.inTemplate d (.var v) ++ templateBody d ps =
          '$' :: '{' :: (v.name ++ '}' :: templateBody d ps) := by simp [Piece.inTemplate]
      refine (congrArg _ hbraced).trans ((parse_braced v groups _).trans ?_)
      exact congrArg (Except.map _) ih

section

variable (value : Text) (ctx : Context) (group : Nat → Option Text)

theorem renderFrom_consChar (c : Char) (ps : Template) :
    renderFrom value ctx group {} (Template.consChar c ps) =
      c :: renderFrom value ctx group {} ps := by
  rcases ps with _ | ⟨_ | _ | _ | _, ps⟩
  · rfl
  · rename_i t
    rcases t with _ | ⟨a, t⟩ <;> rfl
  · rfl
  · rfl
  · rfl

/-- Rendering what pieces are read back as gives what they stand for, in any match. -/
theorem render_templateOf (ps : List Piece) :
    render value ctx group (templateOf ps) = readPieces value ctx ps := by
  unfold render
  induction ps with
  | nil => rfl
  | cons p ps ih =>
    rw [readPieces, List.flatMap_cons, ← readPieces, ← ih]
    cases p with
    | text t =>
      rw [templateOf, Piece.read]
      induction t with
      | nil => rfl
      | cons c t iht => rw [List.foldr_cons, renderFrom_consChar, iht, List.cons_append]
    | var v =>
      have hafter : ({} : CaseState).after (v.read value ctx) = {} := by
        unfold CaseState.after
        split <;> rfl
      rw [templateOf, renderFrom]
      · show _ ++ renderFrom value ctx group (({} : CaseState).after (v.read value ctx)) _ = _
        rw [hafter]
        rfl
      · simp

end

/-! ## Tokens of the spellings -/

theorem clean_backslashed {d : Char} {special : List Char} (hd : d ∈ special)
    (hb : '\\' ∈ special) (t : Text) : Clean d (backslashed special t) := by
  induction t with
  | nil => exact .nil
  | cons c t ih =>
    rw [backslashed, List.flatMap_cons]
    split
    · exact .escape c ih
    · rename_i hc
      exact .char (fun h => hc (h ▸ hd)) (fun h => hc (h ▸ hb)) ih

/-- The body of pieces ends only at its delimiter. Behind a dollar sign a variable would end it. -/
theorem clean_templateBody {d : Char} (hd : isDelimiter d = true) {ps : List Piece}
    (hvars : d = '$' → ∀ v, Piece.var v ∉ ps) : Clean d (templateBody d ps) := by
  induction ps with
  | nil => exact .nil
  | cons p ps ih =>
    rw [templateBody, List.flatMap_cons]
    refine Clean.append ?_ (ih fun h v hv => hvars h v (List.mem_cons_of_mem _ hv))
    cases p with
    | text t => exact clean_backslashed (by simp) (by simp) t
    | var v =>
      have hdollar : '$' ≠ d := fun h => hvars h.symm v List.mem_cons_self
      have hplain : ('{' :: (v.name ++ ['}'])).all (fun c => !isDelimiter c && c != '\\') = true := by
        cases v <;> rfl
      have hall : ∀ c ∈ '{' :: (v.name ++ ['}']), isDelimiter c = false ∧ c ≠ '\\' :=
        fun c hc => by simpa using List.all_eq_true.mp hplain c hc
      refine .char hdollar (by decide) (clean_of_forall fun c hc => ⟨?_, (hall c hc).2⟩)
      rintro rfl
      rw [(hall c hc).1] at hd
      cases hd

theorem readQuoted_backslashed (t rest : Text) :
    readQuoted (backslashed ['\\', '\''] t ++ '\'' :: rest) = some (t, rest) := by
  induction t with
  | nil => exact readQuoted_close rest
  | cons c t ih =>
    rw [backslashed, List.flatMap_cons, ← backslashed, List.append_assoc]
    by_cases hc : c ∈ ['\\', '\'']
    · have hor : c = '\'' ∨ c = '\\' := by simpa [or_comm] using hc
      rw [if_pos hc, List.cons_append, List.singleton_append, readQuoted_escape hor, ih]
      rfl
    · have hne : c ≠ '\'' ∧ c ≠ '\\' := by simpa [and_comm] using hc
      rw [if_neg hc, List.singleton_append, readQuoted_other hne.1 hne.2, ih]
      rfl

theorem lexes_assignment {cs : Text} {us : List Token} (h : Lexes cs us) :
    Lexes ("$_ = ".toList ++ cs) (.var Var.value.name :: .assign :: us) := by
  have hvar : scan '$' ('_' :: ' ' :: '=' :: ' ' :: cs) =
      .ok (.var Var.value.name, ' ' :: '=' :: ' ' :: cs) := rfl
  have hassign : scan '=' (' ' :: cs) = .ok (.assign, ' ' :: cs) := rfl
  exact .token (by decide) hvar (.blank (by decide) (.token (by decide) hassign
    (.blank (by decide) h)))

namespace Piece

def token : Piece → Token
  | .text t => .plain t
  | .var v => .var v.name

def expr : Piece → Expr
  | .text t => .plain t
  | .var v => .var v

theorem derives (p : Piece) : DerivesAtom [p.token] p.expr := by
  cases p with
  | text t => exact .plain t
  | var v => exact .var v

theorem eval_expr (p : Piece) (value : Text) (ctx : Context) :
    p.expr.eval value ctx = p.read value ctx := by
  cases p <;> rfl

/-- An atom ends at a blank or at the end of the text. -/
theorem lexes_asAtom (p : Piece) {rest : Text} {us : List Token}
    (hrest : rest = [] ∨ ∃ more, rest = ' ' :: more) (h : Lexes rest us) :
    Lexes (p.asAtom ++ rest) (p.token :: us) := by
  cases p with
  | text t =>
    have hscan : scan '\'' (backslashed ['\\', '\''] t ++ '\'' :: rest) = .ok (.plain t, rest) := by
      simp only [scan, readQuoted_backslashed]
    have htext : asAtom (.text t) ++ rest =
        '\'' :: (backslashed ['\\', '\''] t ++ '\'' :: rest) := by simp [asAtom]
    rw [htext]
    exact .token (by decide) hscan h
  | var v =>
    have hscan : scan '$' (v.name ++ rest) = .ok (.var v.name, rest) := by
      rcases hrest with rfl | ⟨more, rfl⟩ <;> cases v <;> rfl
    exact .token (by decide) hscan h

end Piece

/-! ## Chains of atoms -/

/-- The further atoms of a chain. -/
def chainTail (ps : List Piece) : Text := ps.flatMap fun p => " . ".toList ++ p.asAtom

/-- The tokens of the further atoms. -/
def chainTokens (ps : List Piece) : List Token := ps.flatMap fun p => [.dot, p.token]

/-- The expression of a chain that begins with `e`. -/
def chainExpr (e : Expr) (ps : List Piece) : Expr := ps.foldl (fun e p => .concat e p.expr) e

theorem intercalate_chain (p : Piece) (ps : List Piece) :
    " . ".toList.intercalate ((p :: ps).map Piece.asAtom) = p.asAtom ++ chainTail ps := by
  induction ps generalizing p with
  | nil => simp [List.intercalate, chainTail]
  | cons q ps ih =>
    have htail : chainTail (q :: ps) = " . ".toList ++ (q.asAtom ++ chainTail ps) := by
      rw [chainTail, List.flatMap_cons, List.append_assoc]
      rfl
    rw [htail, ← ih q, List.map_cons, List.map_cons]
    simp [List.intercalate]

/-- Behind an atom, a chain goes on with a blank or ends. -/
theorem chainTail_eq_nil_or (ps : List Piece) :
    chainTail ps = [] ∨ ∃ more, chainTail ps = ' ' :: more := by
  rcases ps with _ | ⟨p, ps⟩
  · exact .inl rfl
  · exact .inr ⟨_, rfl⟩

theorem lexes_chainTail (ps : List Piece) : Lexes (chainTail ps) (chainTokens ps) := by
  induction ps with
  | nil => exact .nil
  | cons p ps ih =>
    have hatom := p.lexes_asAtom (chainTail_eq_nil_or ps) ih
    have hdot : scan '.' (' ' :: (p.asAtom ++ chainTail ps)) =
        .ok (.dot, ' ' :: (p.asAtom ++ chainTail ps)) := rfl
    rw [chainTail, List.flatMap_cons, List.append_assoc]
    exact .blank (by decide) (.token (by decide) hdot (.blank (by decide) hatom))

theorem derives_chain {ts : List Token} {e : Expr} (h : DerivesExpr ts e) (ps : List Piece) :
    DerivesExpr (ts ++ chainTokens ps) (chainExpr e ps) := by
  induction ps generalizing ts e with
  | nil =>
    rw [chainTokens, List.flatMap_nil, List.append_nil]
    exact h
  | cons p ps ih =>
    have hstep := ih (.concat h p.derives)
    rw [List.append_assoc] at hstep
    exact hstep

theorem eval_chainExpr (value : Text) (ctx : Context) (e : Expr) (ps : List Piece) :
    (chainExpr e ps).eval value ctx = e.eval value ctx ++ readPieces value ctx ps := by
  induction ps generalizing e with
  | nil => exact (List.append_nil _).symm
  | cons p ps ih =>
    rw [chainExpr, List.foldl_cons, ← chainExpr, ih, Expr.eval, p.eval_expr, List.append_assoc,
      readPieces, readPieces, List.flatMap_cons]

/-! ## Scripts of the spellings -/

theorem parse_quotedAssignment (ps : List Piece) :
    Script.parse (quotedAssignment ps) = .ok [⟨.assign (.template (templateOf ps)), none⟩] := by
  have hclean : Clean '"' (templateBody '"' ps) :=
    clean_templateBody rfl fun h => absurd h (by decide)
  have hscan : scan '"' (templateBody '"' ps ++ ['"']) =
      .ok (.interpolated (templateBody '"' ps), []) := by
    simp only [scan, hclean.readBody (show '"' ≠ '\\' by decide)]
  have hlexes : Lexes (quotedAssignment ps) _ :=
    lexes_assignment (.token (by decide) hscan .nil)
  exact parse_of_lexes hlexes (.last (.some (.bare (.assign .assign (.atom
    (.interpolated (parse_templateBody rfl false ps)))))))

theorem parse_chainedAssignment (p : Piece) (ps : List Piece) :
    Script.parse (chainedAssignment (p :: ps)) = .ok [⟨.assign (chainExpr p.expr ps), none⟩] := by
  have hatom := p.lexes_asAtom (chainTail_eq_nil_or ps) (lexes_chainTail ps)
  rw [chainedAssignment, intercalate_chain]
  exact parse_of_lexes (lexes_assignment hatom) (.last (.some (.bare (.assign .assign
    (derives_chain (.atom p.derives) ps)))))

theorem parse_substitution {d : Char} {pattern flags : Text} {r : Regex} {ps : List Piece}
    (hd : isDelimiter d = true) (hvars : d = '$' → ∀ v, Piece.var v ∉ ps)
    (hpattern : Clean d pattern) (hr : Builds substFlags pattern flags r) :
    Script.parse (substitution d pattern ps flags) =
      .ok [⟨.substitute r (templateOf ps) (flags.contains 'g'), none⟩] := by
  have halpha : ∀ c ∈ flags, c.isAlpha = true := by
    intro c hc
    have hall : substFlags.all Char.isAlpha = true := by decide
    exact List.all_eq_true.mp hall c (hr.1 c hc)
  have hscan := scan_subst hd hpattern (clean_templateBody hd hvars) halpha
  have hlexes : Lexes (substitution d pattern ps flags) _ := .token (by decide) hscan .nil
  exact parse_of_lexes hlexes (.last (.some (.bare (.substitute hr
    (parse_templateBody hd true ps)))))

end Script

/-! ## Fragments that agree -/

/-- A fragment compiles for every field and takes a value to a given text. -/
def Fragment.Computes (a : Fragment) (f : Context → Text → Text) : Prop :=
  ∀ field, ∃ e, Editor.compile field [a] = .ok e ∧ ∀ ctx value, e.apply ctx value = f ctx value

/-- Two fragments can stand for each other in every chain of fragments. -/
def Fragment.Interchangeable (a b : Fragment) : Prop :=
  ∀ field before after, (Editor.compile field (before ++ a :: after)).map Editor.apply =
    (Editor.compile field (before ++ b :: after)).map Editor.apply

namespace Script

/-- A script that always gives one text can stand for that text. -/
theorem interchangeable_literal {source text : Text} {p : Script}
    (hp : Script.parse source = .ok p)
    (hrun : ∀ ctx value, p.run ctx value = (text, .proceed)) :
    Fragment.Interchangeable (.expression source) (.literal text) := by
  intro field before after
  have hfirst : (Step.run p).andThen = (Step.set text).andThen := by
    funext next ctx value
    simp only [Step.andThen, Step.apply, hrun]
  have hfront : ∀ n, (Editor.compileSteps field n (.expression source :: after)).map
      Step.meaning = (Editor.compileSteps field n (.literal text :: after)).map Step.meaning := by
    intro n
    simp only [Editor.compileSteps, hp]
    rw [Step.map_meaning_cons, Step.map_meaning_cons, hfirst]
  rw [Editor.map_apply_compile, Editor.map_apply_compile,
    Editor.map_meaning_append field before hfront]

theorem readPieces_texts (value : Text) (ctx : Context) (texts : List Text) :
    readPieces value ctx (texts.map .text) = texts.flatten := by
  induction texts with
  | nil => rfl
  | cons t texts ih =>
    rw [List.map_cons, readPieces, List.flatMap_cons, ← readPieces, ih]
    rfl

/-- Texts and variables can be written as one double-quoted string, as a chain of atoms and as
the replacement of a substitution. All of these denote the concatenation of the pieces, and
texts alone are as good as a literal fragment. -/
theorem spellings_agree {ps : List Piece} (hps : ps ≠ []) :
    Fragment.Computes (.expression (quotedAssignment ps))
      (fun ctx value => readPieces value ctx ps) ∧
    Fragment.Computes (.expression (chainedAssignment ps))
      (fun ctx value => readPieces value ctx ps) ∧
    (∀ (d : Char) (pattern flags : Text) (r : Regex), isDelimiter d = true →
      (d = '$' → ∀ v, Piece.var v ∉ ps) → Clean d pattern → Builds substFlags pattern flags r →
      (∃ replacement, Script.parse (substitution d pattern ps flags) =
          .ok [⟨.substitute r replacement (flags.contains 'g'), none⟩] ∧
        ∀ value ctx group, render value ctx group replacement = readPieces value ctx ps) ∧
      Fragment.Computes (.expression (substitution d pattern ps flags)) fun ctx value =>
        r.replace (flags.contains 'g') value fun _ => readPieces value ctx ps) ∧
    ∀ texts : List Text, ps = texts.map .text →
      Fragment.Interchangeable (.expression (quotedAssignment ps)) (.literal texts.flatten) ∧
      Fragment.Interchangeable (.expression (chainedAssignment ps)) (.literal texts.flatten) := by
  obtain ⟨p, ps, rfl⟩ := List.exists_cons_of_ne_nil hps
  have hquoted := parse_quotedAssignment (p :: ps)
  have hchained := parse_chainedAssignment p ps
  have heval : ∀ value ctx, (chainExpr p.expr ps).eval value ctx =
      readPieces value ctx (p :: ps) := by
    intro value ctx
    rw [eval_chainExpr, p.eval_expr, readPieces, readPieces, List.flatMap_cons]
  refine ⟨fun field => ⟨_, Editor.compile_expression hquoted field, fun ctx value => ?_⟩,
    fun field => ⟨_, Editor.compile_expression hchained field, fun ctx value => ?_⟩, ?_, ?_⟩
  · rw [Editor.apply_run_singleton]
    exact render_templateOf value ctx _ (p :: ps)
  · rw [Editor.apply_run_singleton]
    exact heval value ctx
  · intro d pattern flags r hd hvars hpattern hr
    have hsubst := parse_substitution hd hvars hpattern hr
    refine ⟨⟨_, hsubst, fun value ctx group => render_templateOf value ctx group _⟩,
      fun field => ⟨_, Editor.compile_expression hsubst field, fun ctx value => ?_⟩⟩
    rw [Editor.apply_run_singleton]
    show r.replace _ value (fun m => render value ctx (m.group? value) _) = _
    simp only [render_templateOf]
  · intro texts htexts
    refine ⟨interchangeable_literal hquoted fun ctx value => ?_,
      interchangeable_literal hchained fun ctx value => ?_⟩
    · show (render value ctx _ (templateOf (p :: ps)), Flow.proceed) = _
      rw [render_templateOf, htexts, readPieces_texts]
    · show ((chainExpr p.expr ps).eval value ctx, Flow.proceed) = _
      rw [heval, htexts, readPieces_texts]

/-- Every special character next to a variable, in the three spellings. -/
theorem spellings_agree_special :
    (∃ e, Editor.compile .title
        [.expression "$_ = \"\\\\'|\\$\\\"$\x7bfile\x7d0\"".toList] = .ok e ∧
      ∀ ctx value, e.apply ctx value = "\\'|$\"".toList ++ ctx.file ++ ['0']) ∧
    (∃ e, Editor.compile .title
        [.expression "$_ = '\\\\\\'|$\"' . $file . '0'".toList] = .ok e ∧
      ∀ ctx value, e.apply ctx value = "\\'|$\"".toList ++ ctx.file ++ ['0']) ∧
    ∃ r replacement, Script.parse "s|a|\\\\'\\|\\$\"$\x7bfile\x7d0|g".toList =
        .ok [⟨.substitute r replacement true, none⟩] ∧
      ∀ value ctx group, render value ctx group replacement =
        "\\'|$\"".toList ++ ctx.file ++ ['0'] := by
  have hread : ∀ ctx value, readPieces value ctx
      [.text "\\'|$\"".toList, .var .file, .text ['0']] =
        "\\'|$\"".toList ++ ctx.file ++ ['0'] := by
    intro ctx value
    simp [readPieces, Piece.read, Var.read]
  obtain ⟨hquoted, hchained, hsubst, -⟩ :=
    @spellings_agree [.text "\\'|$\"".toList, .var .file, .text ['0']] (by decide)
  obtain ⟨r, hr⟩ := exists_of_isOk
    (show (Regex.build (optionsOf ['g']) ['a']).isOk = true by decide +kernel)
  obtain ⟨⟨replacement, hparse, hrender⟩, -⟩ := hsubst '|' ['a'] ['g'] r (by decide)
    (fun h => absurd h (by decide)) (clean_of_forall (by simp)) ⟨by simp [substFlags], hr⟩
  refine ⟨?_, ?_, r, replacement, hparse, fun value ctx group =>
    (hrender value ctx group).trans (hread ctx value)⟩
  · obtain ⟨e, he, happly⟩ := hquoted .title
    exact ⟨e, he, fun ctx value => (happly ctx value).trans (hread ctx value)⟩
  · obtain ⟨e, he, happly⟩ := hchained .title
    exact ⟨e, he, fun ctx value => (happly ctx value).trans (hread ctx value)⟩

end Script

end TagEdit
