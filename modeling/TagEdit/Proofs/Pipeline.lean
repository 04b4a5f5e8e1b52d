import TagEdit.Editor

/-!
# Compiled pipelines

What a chain of compiled fragments does is put together from what each of its
steps does. The editor that a registry's editor set has for a field is the
compiled chain of the fragments registered for that field, and of no others.
-/

namespace TagEdit

/-! ## Editors of one fragment -/

namespace Editor

theorem compile_expression {source : Text} {p : Script} (hp : Script.parse source = .ok p)
    (field : Field) : compile field [.expression source] = .ok ⟨field, [.run p]⟩ := by
  simp only [compile, compileSteps, hp]
  rfl

theorem compile_expression_error {source : Text} {e : Script.SyntaxError}
    (hp : Script.parse source = .error e) (field : Field) :
    compile field [.expression source] = .error ⟨field, 1, e⟩ := by
  simp only [compile, compileSteps, hp]
  rfl

theorem apply_run_singleton (field : Field) (s : Script.Statement) (ctx : Context)
    (value : Text) : apply ⟨field, [.run [s]]⟩ ctx value = (s.run ctx value).1 := by
  simp only [apply, Step.applyAll, Step.apply, Script.run]
  rcases s.run ctx value with ⟨v, _ | _⟩ <;> rfl

theorem field_of_compile {field : Field} {fragments : List Fragment} {e : Editor}
    (h : compile field fragments = .ok e) : e.field = field := by
  unfold compile at h
  rcases hs : compileSteps field 1 fragments with err | steps
  · rw [hs] at h
    cases h
  · rw [hs] at h
    cases h
    rfl

end Editor

/-! ## What steps do -/

namespace Step

/-- What some steps do. -/
def meaning (steps : List Step) (ctx : Context) (value : Text) : Text × Flow :=
  applyAll ctx value steps

/-- What a step in front of others does. -/
def andThen (s : Step) (next : Context → Text → Text × Flow) (ctx : Context) (value : Text) :
    Text × Flow :=
  match s.apply ctx value with
  | (v, .stop) => (v, .stop)
  | (v, .proceed) => next ctx v

theorem map_meaning_cons (s : Step) (steps : Except CompileError (List Step)) :
    (steps.map (s :: ·)).map meaning = (steps.map meaning).map s.andThen := by
  cases steps <;> rfl

end Step

namespace Editor

theorem map_apply_compile (field : Field) (fragments : List Fragment) :
    (compile field fragments).map apply =
      ((compileSteps field 1 fragments).map Step.meaning).map
        fun run ctx value => (run ctx value).1 := by
  unfold compile
  cases compileSteps field 1 fragments <;> rfl

/-- Fragments that mean the same at any place of a chain mean the same behind others. -/
theorem map_meaning_append (field : Field) (before : List Fragment) {l m : List Fragment}
    (h : ∀ n, (compileSteps field n l).map Step.meaning =
      (compileSteps field n m).map Step.meaning) (n : Nat) :
    (compileSteps field n (before ++ l)).map Step.meaning =
      (compileSteps field n (before ++ m)).map Step.meaning := by
  induction before generalizing n with
  | nil => exact h n
  | cons a before ih =>
    cases a with
    | literal t =>
      simp only [List.cons_append, compileSteps]
      rw [Step.map_meaning_cons, Step.map_meaning_cons, ih]
    | expression source =>
      simp only [List.cons_append, compileSteps]
      rcases Script.parse source with e | p
      · rfl
      · show (Except.map _ _).map _ = (Except.map _ _).map _
        rw [Step.map_meaning_cons, Step.map_meaning_cons, ih]

end Editor

/-! ## Editors of a registry -/

namespace Registry

variable {r : Registry}

theorem find?_of_compileFields {fields : List Field} {es : List Editor}
    (h : r.compileFields fields = .ok es) {f : Field} (hf : f ∈ fields) :
    ∃ e, es.find? (fun e => e.field == f) = some e ∧
      Editor.compile f (r.fragments f) = .ok e := by
  induction fields generalizing es with
  | nil => cases hf
  | cons g fields ih =>
    unfold compileFields at h
    rcases hg : Editor.compile g (r.fragments g) with err | e
    · rw [hg] at h
      cases h
    · rw [hg] at h
      rcases hrest : r.compileFields fields with err | rest
      · rw [hrest] at h
        cases h
      · rw [hrest] at h
        cases h
        have hfield := Editor.field_of_compile hg
        by_cases hfg : f = g
        · subst hfg
          exact ⟨e, by rw [List.find?_cons_of_pos (by simp [hfield])], hg⟩
        · obtain ⟨e', he', hc⟩ := ih hrest ((List.mem_cons.mp hf).resolve_left hfg)
          refine ⟨e', ?_, hc⟩
          rw [← he']
          exact List.find?_cons_of_neg (by simpa [hfield] using Ne.symm hfg)

/-- The editor of a field is compiled from that field's fragments. -/
theorem compile_get {editors : EditorSet} (h : r.compile = .ok editors) (f : Field) :
    Editor.compile f (r.fragments f) = .ok (editors.get f) := by
  unfold compile at h
  rcases hes : r.compileFields Field.all with err | es
  · rw [hes] at h
    cases h
  · rw [hes] at h
    cases h
    obtain ⟨e, he, hc⟩ := find?_of_compileFields hes (Field.mem_all f)
    rw [hc, EditorSet.get, he]
    rfl

end Registry

end TagEdit
