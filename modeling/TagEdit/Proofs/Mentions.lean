import TagEdit.Editor

/-!
# The variables that an editor mentions

`vars` lists the variables that stand anywhere in a script: in assignments, in the arguments of
functions, in guards, in strings and in replacements. An editor reads no others, so it does the same
in two contexts that show the same for them. An edit that mentions neither the length nor the
seconds does not depend on the duration that was found.
-/

namespace TagEdit

namespace Script

/-! ## Variables -/

def Part.vars : Part → List Var
  | .var v => [v]
  | .text _ | .group _ | .modifier _ => []

def Template.vars (ps : Template) : List Var := ps.flatMap Part.vars

def Expr.vars : Expr → List Var
  | .plain _ | .int _ => []
  | .template ps => Template.vars ps
  | .var v => [v]
  | .call _ arg => arg.vars
  | .concat lhs rhs => lhs.vars ++ rhs.vars

def Cond.vars : Cond → List Var
  | .matching subject _ _ => subject.vars
  | .text lhs _ rhs => lhs.vars ++ rhs.vars
  | .number lhs _ rhs => lhs.vars ++ rhs.vars
  | .truthy e => e.vars
  | .not c => c.vars
  | .and a b => a.vars ++ b.vars
  | .or a b => a.vars ++ b.vars

def Action.vars : Action → List Var
  | .substitute _ replacement _ => Template.vars replacement
  | .assign e => e.vars
  | .append e => e.vars
  | .last => []

def Guard.vars (g : Guard) : List Var := g.cond.vars

def Statement.vars (s : Statement) : List Var := s.action.vars ++ s.guard.elim [] Guard.vars

/-- The variables in a script. -/
def vars (p : Script) : List Var := p.flatMap Statement.vars

end Script

open Script

def Step.vars : Step → List Var
  | .set _ => []
  | .run script => script.vars

/-- The variables that an editor mentions. -/
def Editor.vars (e : Editor) : List Var := e.steps.flatMap Step.vars

/-- Two contexts show the same for some variables. -/
structure Context.AgreeOn (vs : List Var) (c d : Context) : Prop where
  file : .file ∈ vs → c.file = d.file
  length : .length ∈ vs → c.length = d.length
  seconds : .seconds ∈ vs → c.seconds = d.seconds

namespace Context.AgreeOn

variable {us vs : List Var} {c d : Context}

theorem mono (h : c.AgreeOn vs d) (hsub : us ⊆ vs) : c.AgreeOn us d :=
  ⟨fun hv => h.file (hsub hv), fun hv => h.length (hsub hv), fun hv => h.seconds (hsub hv)⟩

theorem left (h : c.AgreeOn (us ++ vs) d) : c.AgreeOn us d := h.mono (List.subset_append_left us vs)

theorem right (h : c.AgreeOn (us ++ vs) d) : c.AgreeOn vs d :=
  h.mono (List.subset_append_right us vs)

theorem of_mem {α : Type} {f : α → List Var} {l : List α} (h : c.AgreeOn (l.flatMap f) d) {a : α}
    (ha : a ∈ l) : c.AgreeOn (f a) d := h.mono fun _ hv => List.mem_flatMap_of_mem ha hv

/-- The contexts of one file agree on everything but its duration. -/
theorem ofFile (hlength : .length ∉ vs) (hseconds : .seconds ∉ vs) (file : Text) (p q : Duration) :
    (Context.ofFile file p).AgreeOn vs (Context.ofFile file q) :=
  ⟨fun _ => rfl, fun h => absurd h hlength, fun h => absurd h hseconds⟩

end Context.AgreeOn

namespace Script

variable {c d : Context}

/-! ## Values -/

theorem Var.read_agree {v : Var} (h : c.AgreeOn [v] d) (value : Text) :
    v.read value c = v.read value d := by
  cases v with
  | value => rfl
  | file => exact h.file List.mem_cons_self
  | length => exact h.length List.mem_cons_self
  | seconds => exact congrArg Text.decimal (h.seconds List.mem_cons_self)

theorem Part.chunk_agree {p : Part} (h : c.AgreeOn p.vars d) (value : Text)
    (group : Nat → Option Text) : p.chunk value c group = p.chunk value d group := by
  cases p with
  | var v => exact Var.read_agree h value
  | text t => rfl
  | group n => rfl
  | modifier m => rfl

theorem renderFrom_agree {ps : Template} (h : c.AgreeOn (Template.vars ps) d) (value : Text)
    (group : Nat → Option Text) (s : CaseState) :
    renderFrom value c group s ps = renderFrom value d group s ps := by
  induction ps generalizing s with
  | nil => rfl
  | cons p ps ih =>
    have hchunk := Part.chunk_agree (h.of_mem List.mem_cons_self) value group
    have hrest := ih h.right
    cases p <;> simp only [renderFrom, hchunk, hrest]

theorem render_agree {ps : Template} (h : c.AgreeOn (Template.vars ps) d) (value : Text)
    (group : Nat → Option Text) : render value c group ps = render value d group ps :=
  renderFrom_agree h value group {}

theorem Expr.eval_agree {e : Expr} (h : c.AgreeOn e.vars d) (value : Text) :
    e.eval value c = e.eval value d := by
  induction e with
  | plain t => rfl
  | template ps => exact render_agree h value _
  | int n => rfl
  | var v => exact Var.read_agree h value
  | call f arg ih => exact congrArg f.apply (ih h)
  | concat lhs rhs ihl ihr => simp only [Expr.eval, ihl h.left, ihr h.right]

theorem Cond.holds_agree {k : Cond} (h : c.AgreeOn k.vars d) (value : Text) :
    k.holds value c = k.holds value d := by
  induction k with
  | matching subject regex negated => simp only [Cond.holds, Expr.eval_agree h]
  | text lhs negated rhs => simp only [Cond.holds, Expr.eval_agree h.left, Expr.eval_agree h.right]
  | number lhs op rhs => simp only [Cond.holds, Expr.eval_agree h.left, Expr.eval_agree h.right]
  | truthy e => simp only [Cond.holds, Expr.eval_agree h]
  | not k ih => simp only [Cond.holds, ih h]
  | and a b iha ihb => simp only [Cond.holds, iha h.left, ihb h.right]
  | or a b iha ihb => simp only [Cond.holds, iha h.left, ihb h.right]

/-! ## Runs -/

/-- The replacement of each match is rendered in the context as well. -/
theorem Action.run_agree {a : Action} (h : c.AgreeOn a.vars d) (value : Text) :
    a.run c value = a.run d value := by
  cases a with
  | substitute regex replacement everywhere => simp only [Action.run, render_agree h]
  | assign e => simp only [Action.run, Expr.eval_agree h]
  | append e => simp only [Action.run, Expr.eval_agree h]
  | last => rfl

theorem Statement.run_agree {s : Statement} (h : c.AgreeOn s.vars d) (value : Text) :
    s.run c value = s.run d value := by
  obtain ⟨action, guard⟩ := s
  have haction := Action.run_agree h.left value
  have hguard : guard.all (Guard.allows c value) = guard.all (Guard.allows d value) := by
    cases guard with
    | none => rfl
    | some g =>
      have hcond : g.cond.holds value c = g.cond.holds value d := Cond.holds_agree h.right value
      simp only [Option.all_some, Guard.allows, hcond]
  simp only [Statement.run, haction, hguard]

theorem run_agree {p : Script} (h : c.AgreeOn p.vars d) (value : Text) :
    p.run c value = p.run d value := by
  induction p generalizing value with
  | nil => rfl
  | cons s p ih =>
    have hrest := ih h.right
    simp only [run, Statement.run_agree (h.of_mem List.mem_cons_self), hrest]

end Script

namespace Step

variable {c d : Context}

theorem apply_agree {s : Step} (h : c.AgreeOn s.vars d) (value : Text) :
    s.apply c value = s.apply d value := by
  cases s with
  | set text => rfl
  | run script => exact run_agree h value

theorem applyAll_agree {steps : List Step} (h : c.AgreeOn (steps.flatMap Step.vars) d)
    (value : Text) : applyAll c value steps = applyAll d value steps := by
  induction steps generalizing value with
  | nil => rfl
  | cons s steps ih =>
    have hrest := ih h.right
    simp only [applyAll, apply_agree (h.of_mem List.mem_cons_self), hrest]

end Step

namespace Editor

/-- An editor depends on the variables that it mentions only. In two contexts that show the same for
them, each of its steps and the whole pipeline leave the same text and go on or end alike. So where
neither the length nor the seconds are mentioned, the duration of the file does not matter. -/
theorem apply_reads_mentioned (e : Editor) (value : Text) :
    (∀ c d : Context, c.AgreeOn e.vars d →
      (∀ s ∈ e.steps, ∀ v, s.apply c v = s.apply d v) ∧
      Step.applyAll c value e.steps = Step.applyAll d value e.steps ∧
      e.apply c value = e.apply d value) ∧
    (Var.length ∉ e.vars → Var.seconds ∉ e.vars → ∀ (file : Text) (p q : Duration),
      Step.applyAll (.ofFile file p) value e.steps = Step.applyAll (.ofFile file q) value e.steps ∧
      e.apply (.ofFile file p) value = e.apply (.ofFile file q) value) := by
  have hagree : ∀ c d : Context, c.AgreeOn e.vars d →
      Step.applyAll c value e.steps = Step.applyAll d value e.steps ∧
      e.apply c value = e.apply d value := fun c d h => by
    have hall := Step.applyAll_agree h value
    exact ⟨hall, congrArg Prod.fst hall⟩
  refine ⟨fun c d h => ⟨fun s hs v => Step.apply_agree (h.of_mem hs) v, hagree c d h⟩, ?_⟩
  intro hlength hseconds file p q
  exact hagree _ _ (.ofFile hlength hseconds file p q)

/-- The length as minutes and seconds is mentioned neither by the guard nor by the string. -/
theorem apply_reads_mentioned_guarded :
    let e : Editor := ⟨.title, [.run
      [⟨.append (.template [.text " in ".toList, .modifier (.span .upper), .var .file]),
        some ⟨false, .number (.var .seconds) .gt (.int 180)⟩⟩, ⟨.last, none⟩]]⟩
    let plain : Editor := ⟨.title, [.run [⟨.assign (.call .stem (.var .file)), none⟩]]⟩
    let c : Context := ⟨"a.mp3".toList, "3:05".toList, 185⟩
    let d : Context := ⟨"a.mp3".toList, "0:00".toList, 185⟩
    c.AgreeOn e.vars d ∧ c ≠ d ∧
      Step.applyAll d "x".toList e.steps = ("x in A.MP3".toList, .stop) ∧
      (Var.length ∉ plain.vars ∧ Var.seconds ∉ plain.vars ∧
        plain.apply (.ofFile "a.mp3".toList ⟨185000⟩) [] =
          plain.apply (.ofFile "a.mp3".toList ⟨0⟩) []) := by
  intro e plain c d
  have hagree : c.AgreeOn e.vars d := ⟨fun _ => rfl, fun h => absurd h (by decide), fun _ => rfl⟩
  have hlength : Var.length ∉ plain.vars := by decide
  have hseconds : Var.seconds ∉ plain.vars := by decide
  refine ⟨hagree, by decide, ?_, hlength, hseconds, ?_⟩
  · rw [← ((apply_reads_mentioned e "x".toList).1 c d hagree).2.1]
    decide +kernel
  · exact ((apply_reads_mentioned plain []).2 hlength hseconds _ _ _).2

end Editor

end TagEdit
