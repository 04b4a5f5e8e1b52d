import Mathlib.Data.List.Basic
import TagEdit.Editor

/-!
# What chains compile to

Fragments compile one by one, and only scripts are parsed. A chain fails at the first script that
is refused: `compileSteps_eq_error_iff` finds it by its place, and `compileFields_eq_error_iff`
finds the first field with such a chain.
-/

namespace TagEdit

/-! ## One fragment -/

namespace Fragment

/-- The step that a fragment compiles to. A literal is not parsed. -/
def step : Fragment → Except Script.SyntaxError Step
  | .expression source => (Script.parse source).map .run
  | .literal text => .ok (.set text)

theorem step_eq_error_iff {a : Fragment} {e : Script.SyntaxError} :
    a.step = .error e ↔ ∃ source, a = .expression source ∧ Script.parse source = .error e := by
  cases a with
  | literal text => simp [step]
  | expression source =>
    unfold step
    rcases hp : Script.parse source with err | p
    · simp [Except.map, hp]
    · simp [Except.map, hp]

theorem exists_step_iff {a : Fragment} :
    (∃ s, a.step = .ok s) ↔ ∀ source, a = .expression source → ∃ p, Script.parse source = .ok p := by
  cases a with
  | literal text => simp [step]
  | expression source =>
    unfold step
    rcases hp : Script.parse source with err | p
    · simp [Except.map, hp]
    · simp [Except.map, hp]

end Fragment

/-- The same error in a chain that has more fragments in front. -/
def CompileError.later (k : Nat) (e : CompileError) : CompileError :=
  { e with fragment := e.fragment + k }

/-! ## Chains -/

namespace Editor

variable {field : Field} {n : Nat} {fs gs : List Fragment}

theorem compileSteps_cons (field : Field) (n : Nat) (a : Fragment) (fs : List Fragment) :
    compileSteps field n (a :: fs) =
      match a.step with
      | .error e => .error ⟨field, n, e⟩
      | .ok s => (compileSteps field (n + 1) fs).map (s :: ·) := by
  cases a with
  | literal text => rfl
  | expression source =>
    simp only [compileSteps, Fragment.step]
    rcases Script.parse source with e | p <;> rfl

/-- Where a chain begins is seen in the numbers of its errors only. -/
theorem compileSteps_add (field : Field) (n k : Nat) (fs : List Fragment) :
    compileSteps field (n + k) fs = (compileSteps field n fs).mapError (CompileError.later k) := by
  induction fs generalizing n with
  | nil => rfl
  | cons a fs ih =>
    rw [compileSteps_cons, compileSteps_cons]
    rcases a.step with e | s
    · rfl
    · have htail := ih (n + 1)
      rw [Nat.add_right_comm] at htail
      simp only [htail]
      rcases compileSteps field (n + 1) fs with e | steps <;> rfl

theorem compileSteps_append (field : Field) (n : Nat) (fs gs : List Fragment) :
    compileSteps field n (fs ++ gs) = (compileSteps field n fs).bind fun steps =>
      (compileSteps field (n + fs.length) gs).map (steps ++ ·) := by
  induction fs generalizing n with
  | nil =>
    show _ = (compileSteps field n gs).map ([] ++ ·)
    rcases h : compileSteps field n gs with e | steps <;> simp [Except.map, h]
  | cons a fs ih =>
    have hlength : n + (a :: fs).length = n + 1 + fs.length := by simp; omega
    rw [List.cons_append, compileSteps_cons, compileSteps_cons, hlength]
    rcases a.step with e | s
    · rfl
    · simp only [ih]
      rcases compileSteps field (n + 1) fs with e | steps
      · rfl
      · rcases compileSteps field (n + 1 + fs.length) gs with e | rest <;>
          simp [Except.map, Except.bind]

theorem exists_compileSteps_iff :
    (∃ steps, compileSteps field n fs = .ok steps) ↔ ∀ a ∈ fs, ∃ s, a.step = .ok s := by
  induction fs generalizing n with
  | nil => simp [compileSteps]
  | cons a fs ih =>
    rw [compileSteps_cons, List.forall_mem_cons, ← ih (n := n + 1)]
    rcases a.step with e | s
    · simp
    · rcases compileSteps field (n + 1) fs with e | steps <;> simp [Except.map]

/-- The error of a chain is that of its first script that is refused. -/
theorem compileSteps_eq_error_iff {e : CompileError} :
    compileSteps field n fs = .error e ↔ ∃ before a after,
      fs = before ++ a :: after ∧ (∀ b ∈ before, ∃ s, b.step = .ok s) ∧
      a.step = .error e.error ∧ e.field = field ∧ e.fragment = n + before.length := by
  constructor
  · intro h
    induction fs generalizing n with
    | nil => cases h
    | cons a fs ih =>
      rw [compileSteps_cons] at h
      rcases ha : a.step with err | s
      · simp only [ha, Except.error.injEq] at h
        subst h
        exact ⟨[], a, fs, rfl, by simp, ha, rfl, rfl⟩
      · rw [ha] at h
        rcases hrest : compileSteps field (n + 1) fs with err | steps
        · simp only [hrest, Except.map, Except.error.injEq] at h
          subst h
          obtain ⟨before, b, after, hfs, hbefore, hb, hfield, hnumber⟩ := ih hrest
          refine ⟨a :: before, b, after, by rw [hfs]; rfl, ?_, hb, hfield, ?_⟩
          · exact List.forall_mem_cons.mpr ⟨⟨s, ha⟩, hbefore⟩
          · rw [hnumber, List.length_cons]
            omega
        · simp [hrest, Except.map] at h
  · rintro ⟨before, a, after, rfl, hbefore, ha, hfield, hnumber⟩
    obtain ⟨steps, hsteps⟩ : ∃ steps, compileSteps field n before = .ok steps :=
      exists_compileSteps_iff.mpr hbefore
    rw [compileSteps_append, hsteps]
    show (compileSteps field (n + before.length) (a :: after)).map (steps ++ ·) = _
    rw [compileSteps_cons, ha, ← hnumber, ← hfield]
    rfl

theorem compile_eq_ok_iff {a : Editor} :
    compile field fs = .ok a ↔ a.field = field ∧ compileSteps field 1 fs = .ok a.steps := by
  unfold compile
  rcases compileSteps field 1 fs with e | steps
  · simp [Except.map]
  · obtain ⟨f, s⟩ := a
    simp [Except.map, eq_comm]

theorem compile_eq_error_iff {e : CompileError} :
    compile field fs = .error e ↔ compileSteps field 1 fs = .error e := by
  unfold compile
  rcases compileSteps field 1 fs with e' | steps <;> simp [Except.map]

theorem exists_compile_iff :
    (∃ a, compile field fs = .ok a) ↔ ∀ a ∈ fs, ∃ s, a.step = .ok s := by
  have hsteps : (∃ a, compile field fs = .ok a) ↔ ∃ steps, compileSteps field 1 fs = .ok steps :=
    ⟨fun ⟨a, ha⟩ => ⟨a.steps, (compile_eq_ok_iff.mp ha).2⟩,
      fun ⟨steps, h⟩ => ⟨⟨field, steps⟩, compile_eq_ok_iff.mpr ⟨rfl, h⟩⟩⟩
  rw [hsteps, exists_compileSteps_iff]

/-- Chains in a row compile to the steps of both, or fail where the first of them fails that
does. -/
theorem compile_append (field : Field) (fs gs : List Fragment) :
    compile field (fs ++ gs) = (compile field fs).bind fun a =>
      ((compile field gs).mapError (CompileError.later fs.length)).map fun b =>
        ⟨field, a.steps ++ b.steps⟩ := by
  unfold compile
  rw [compileSteps_append, compileSteps_add]
  rcases compileSteps field 1 fs with e | steps
  · rfl
  · rcases compileSteps field 1 gs with e | rest <;> rfl

end Editor

/-! ## Registries -/

namespace Registry

variable {r : Registry}

theorem compileFields_cons (r : Registry) (f : Field) (fields : List Field) :
    r.compileFields (f :: fields) =
      match Editor.compile f (r.fragments f) with
      | .error e => .error e
      | .ok a => (r.compileFields fields).map (a :: ·) := rfl

theorem exists_compileFields_iff {fields : List Field} :
    (∃ es, r.compileFields fields = .ok es) ↔
      ∀ f ∈ fields, ∃ e, Editor.compile f (r.fragments f) = .ok e := by
  induction fields with
  | nil => simp [compileFields]
  | cons f fields ih =>
    rw [List.forall_mem_cons, ← ih, compileFields_cons]
    rcases Editor.compile f (r.fragments f) with e | a
    · simp
    · rcases r.compileFields fields with e | es <;> simp [Except.map]

/-- The error of some fields is that of the first of them whose chain fails. -/
theorem compileFields_eq_error_iff {fields : List Field} {e : CompileError} :
    r.compileFields fields = .error e ↔ ∃ before f after, fields = before ++ f :: after ∧
      (∀ g ∈ before, ∃ a, Editor.compile g (r.fragments g) = .ok a) ∧
      Editor.compile f (r.fragments f) = .error e := by
  constructor
  · intro h
    induction fields with
    | nil => cases h
    | cons f fields ih =>
      rw [compileFields_cons] at h
      rcases hf : Editor.compile f (r.fragments f) with err | a
      · simp only [hf, Except.error.injEq] at h
        subst h
        exact ⟨[], f, fields, rfl, by simp, hf⟩
      · rw [hf] at h
        rcases hrest : r.compileFields fields with err | es
        · simp only [hrest, Except.map, Except.error.injEq] at h
          subst h
          obtain ⟨before, g, after, hfields, hbefore, hg⟩ := ih hrest
          refine ⟨f :: before, g, after, by rw [hfields]; rfl, ?_, hg⟩
          exact List.forall_mem_cons.mpr ⟨⟨a, hf⟩, hbefore⟩
        · simp [hrest, Except.map] at h
  · rintro ⟨before, f, after, rfl, hbefore, hf⟩
    induction before with
    | nil =>
      rw [List.nil_append, compileFields_cons, hf]
    | cons g before ih =>
      obtain ⟨⟨a, ha⟩, hbefore⟩ := List.forall_mem_cons.mp hbefore
      rw [List.cons_append, compileFields_cons, ha, ih hbefore]
      rfl

theorem exists_compile_iff :
    (∃ s, r.compile = .ok s) ↔ ∀ f, ∀ a ∈ r.fragments f, ∃ s, a.step = .ok s := by
  have hfields : (∃ s, r.compile = .ok s) ↔ ∃ es, r.compileFields Field.all = .ok es := by
    unfold compile
    rcases r.compileFields Field.all with e | es <;> simp [Except.map]
  rw [hfields, exists_compileFields_iff]
  simp only [Field.mem_all, forall_const, Editor.exists_compile_iff]

theorem compile_eq_error_iff {e : CompileError} :
    r.compile = .error e ↔ r.compileFields Field.all = .error e := by
  unfold compile
  rcases r.compileFields Field.all with e' | es <;> simp [Except.map]

/-- Registries that give every field the same chain compile to the same. -/
theorem compile_congr {r' : Registry} (h : ∀ f, r.fragments f = r'.fragments f) :
    r.compile = r'.compile := by
  have hfields : ∀ fields : List Field, r.compileFields fields = r'.compileFields fields := by
    intro fields
    induction fields with
    | nil => rfl
    | cons f fields ih => rw [compileFields_cons, compileFields_cons, ih, h]
  rw [compile, compile, hfields]

end Registry

end TagEdit
