import TagEdit.Proofs.Acceptance
import TagEdit.Proofs.Compilation

/-!
# Chains as pipelines

A chain of fragments in a row is a pipeline with one early exit. Where a run comes to a `last` is
told by `ReachesLast`, through statements and fragments: at an unguarded one, or at one of which
the guard allows it on the value that everything before has left. `chain_is_pipeline` says how
chains in a row compile and what they do.
-/

namespace TagEdit

/-! ## Coming to the end of a chain -/

/-- A run of a script comes to a `last` that is carried out. -/
inductive Script.ReachesLast (ctx : Context) : Text → Script → Prop where
  | here {value : Text} {s : Script.Statement} {rest : Script} (haction : s.action = .last)
      (hguard : ∀ g, s.guard = some g → g.allows ctx value = true) :
      ReachesLast ctx value (s :: rest)
  | later {value : Text} {s : Script.Statement} {rest : Script}
      (h : ReachesLast ctx (s.run ctx value).1 rest) : ReachesLast ctx value (s :: rest)

/-- A run of some steps comes to a `last` that is carried out. -/
inductive Step.ReachesLast (ctx : Context) : Text → List Step → Prop where
  | within {value : Text} {script : Script} {rest : List Step}
      (h : script.ReachesLast ctx value) : ReachesLast ctx value (.run script :: rest)
  | later {value : Text} {s : Step} {rest : List Step}
      (h : ReachesLast ctx (s.apply ctx value).1 rest) : ReachesLast ctx value (s :: rest)

namespace Script

variable {ctx : Context} {value : Text}

/-- A statement stops the chain if it is a `last` that is carried out. -/
theorem Statement.run_stop_iff {s : Statement} :
    (s.run ctx value).2 = .stop ↔
      s.action = .last ∧ ∀ g, s.guard = some g → g.allows ctx value = true := by
  obtain ⟨action, guard⟩ := s
  have haction : (action.run ctx value).2 = .stop ↔ action = .last := by
    cases action <;> simp [Action.run]
  unfold Statement.run
  rcases guard with _ | g
  · simpa using haction
  · by_cases hg : g.allows ctx value = true
    · simpa [hg] using haction
    · simp [hg]

theorem run_stop_iff {p : Script} : (run ctx value p).2 = .stop ↔ p.ReachesLast ctx value := by
  induction p generalizing value with
  | nil =>
    constructor
    · rintro ⟨⟩
    · rintro ⟨⟩
  | cons s p ih =>
    have hhere : (s.run ctx value).2 = .stop ↔ _ := Statement.run_stop_iff
    have hlater := @ih (s.run ctx value).1
    rw [run]
    rcases hs : s.run ctx value with ⟨w, _ | _⟩
    · rw [hs] at hhere hlater
      refine ⟨fun h => .later (hs ▸ hlater.mp h), fun h => hlater.mpr ?_⟩
      cases h with
      | here haction hguard => exact absurd (hhere.mpr ⟨haction, hguard⟩) (by simp)
      | later h =>
        rw [hs] at h
        exact h
    · rw [hs] at hhere
      obtain ⟨haction, hguard⟩ := hhere.mp rfl
      exact ⟨fun _ => .here haction hguard, fun _ => rfl⟩

end Script

namespace Step

variable {ctx : Context} {value : Text}

theorem applyAll_stop_iff {steps : List Step} :
    (applyAll ctx value steps).2 = .stop ↔ ReachesLast ctx value steps := by
  induction steps generalizing value with
  | nil =>
    constructor
    · rintro ⟨⟩
    · rintro ⟨⟩
  | cons s steps ih =>
    have hlater := @ih (s.apply ctx value).1
    rw [applyAll]
    rcases hs : s.apply ctx value with ⟨w, _ | _⟩
    · rw [hs] at hlater
      refine ⟨fun h => .later (hs ▸ hlater.mp h), fun h => hlater.mpr ?_⟩
      cases h with
      | within h =>
        have hstop := Script.run_stop_iff.mpr h
        rw [show Script.run ctx value _ = (w, .proceed) from hs] at hstop
        cases hstop
      | later h =>
        rw [hs] at h
        exact h
    · refine ⟨fun _ => ?_, fun _ => rfl⟩
      cases s with
      | set text => cases hs
      | run script => exact .within (Script.run_stop_iff.mp (congrArg Prod.snd hs))

/-- Steps in a row: the second ones run on what the first ones leave, unless those end the
chain. -/
theorem applyAll_append (ctx : Context) (value : Text) (steps rest : List Step) :
    applyAll ctx value (steps ++ rest) =
      match applyAll ctx value steps with
      | (v, .stop) => (v, .stop)
      | (v, .proceed) => applyAll ctx v rest := by
  induction steps generalizing value with
  | nil => rfl
  | cons s steps ih =>
    simp only [List.cons_append, applyAll]
    rcases s.apply ctx value with ⟨v, _ | _⟩
    · exact ih v
    · rfl

end Step

/-! ## Editors in a row -/

namespace Editor

/-- A run of an editor comes to a `last` that is carried out. -/
def ReachesLast (e : Editor) (ctx : Context) (value : Text) : Prop :=
  Step.ReachesLast ctx value e.steps

variable {a b : Editor} {ctx : Context} {value : Text}

theorem apply_append_of_reachesLast (h : a.ReachesLast ctx value) (field : Field)
    (rest : List Step) : apply ⟨field, a.steps ++ rest⟩ ctx value = a.apply ctx value := by
  have hstop := Step.applyAll_stop_iff.mpr h
  unfold apply
  rw [Step.applyAll_append]
  rcases hrun : Step.applyAll ctx value a.steps with ⟨v, _ | _⟩
  · rw [hrun] at hstop
    cases hstop
  · rfl

theorem apply_append_of_not_reachesLast (h : ¬ a.ReachesLast ctx value) (field : Field) :
    apply ⟨field, a.steps ++ b.steps⟩ ctx value = b.apply ctx (a.apply ctx value) := by
  have hproceed := mt Step.applyAll_stop_iff.mp h
  unfold apply
  rw [Step.applyAll_append]
  rcases hrun : Step.applyAll ctx value a.steps with ⟨v, _ | _⟩
  · rfl
  · rw [hrun] at hproceed
    exact absurd rfl hproceed

theorem not_reachesLast_set (field : Field) (text : Text) :
    ¬ ReachesLast ⟨field, [.set text]⟩ ctx value := by
  rintro (_ | h)
  cases h

/-- A literal anywhere in a chain does not matter to whether the chain compiles. -/
theorem exists_compile_literal_iff (field : Field) (fs gs : List Fragment) (text : Text) :
    (∃ e, compile field (fs ++ .literal text :: gs) = .ok e) ↔
      ∃ e, compile field (fs ++ gs) = .ok e := by
  have hliteral : ∃ s, (Fragment.literal text).step = .ok s := ⟨.set text, rfl⟩
  simp only [exists_compile_iff, List.forall_mem_append, List.forall_mem_cons, hliteral, true_and]

/-- Chains in a row compile if both do. The error is that of the first chain, else that of the
second one, counted behind the fragments of the first one. The second chain runs on what the first
one leaves, unless that one comes to a `last`. A literal compiles whatever its text is, and
replaces any value by it. -/
theorem chain_is_pipeline (field : Field) (fs gs : List Fragment) :
    ((∃ e, compile field (fs ++ gs) = .ok e) ↔
      (∃ a, compile field fs = .ok a) ∧ ∃ b, compile field gs = .ok b) ∧
    (∀ e, compile field fs = .error e → compile field (fs ++ gs) = .error e) ∧
    (∀ a e, compile field fs = .ok a → compile field gs = .error e →
      compile field (fs ++ gs) = .error ⟨e.field, e.fragment + fs.length, e.error⟩) ∧
    (∀ a b, compile field fs = .ok a → compile field gs = .ok b →
      ∃ e, compile field (fs ++ gs) = .ok e ∧ ∀ ctx value,
        (a.ReachesLast ctx value → e.apply ctx value = a.apply ctx value) ∧
        (¬ a.ReachesLast ctx value → e.apply ctx value = b.apply ctx (a.apply ctx value))) ∧
    ∀ text,
      ((∃ e, compile field (fs ++ .literal text :: gs) = .ok e) ↔
        ∃ e, compile field (fs ++ gs) = .ok e) ∧
      ∃ l, compile field [.literal text] = .ok l ∧ ∀ ctx value,
        l.apply ctx value = text ∧ ¬ l.ReachesLast ctx value := by
  have happend := compile_append field fs gs
  refine ⟨?_, fun e hfs => ?_, fun a e hfs hgs => ?_, fun a b hfs hgs => ?_, fun text => ?_⟩
  · simp only [exists_compile_iff, List.forall_mem_append]
  · rw [happend, hfs]
    rfl
  · rw [happend, hfs, hgs]
    rfl
  · refine ⟨⟨field, a.steps ++ b.steps⟩, ?_, fun ctx value => ⟨fun h => ?_, fun h => ?_⟩⟩
    · rw [happend, hfs, hgs]
      rfl
    · exact apply_append_of_reachesLast h field b.steps
    · exact apply_append_of_not_reachesLast h field
  · exact ⟨exists_compile_literal_iff field fs gs text, ⟨field, [.set text]⟩, rfl,
      fun ctx value => ⟨rfl, not_reachesLast_set field text⟩⟩

/-- A `last` behind a literal keeps what comes behind it from any value, and a script that is
refused there is the third fragment. -/
theorem chain_is_pipeline_last :
    let fs : List Fragment := [.literal "x".toList, .expression "last".toList]
    (∃ e, compile .title (fs ++ [.literal "y".toList]) = .ok e ∧
      ∀ ctx value, e.apply ctx value = "x".toList) ∧
    compile .title (fs ++ [.expression "$_ = 3.5".toList]) =
      .error ⟨.title, 3, ⟨.decimalNumber, 6⟩⟩ := by
  intro fs
  have hscan : Script.scan 'l' "ast".toList = .ok (.last, []) := rfl
  have hlast : Script.parse "last".toList = .ok [⟨.last, none⟩] :=
    Script.parse_of_lexes (.token (by decide) hscan .nil) (.last (.some (.bare .last)))
  have hfs : compile .title fs = .ok ⟨.title, [.set "x".toList, .run [⟨.last, none⟩]]⟩ := by
    refine compile_eq_ok_iff.mpr ⟨rfl, ?_⟩
    simp only [fs, compileSteps, hlast]
    rfl
  have hgs : compile .title [.literal "y".toList] = .ok ⟨.title, [.set "y".toList]⟩ := rfl
  have hrefused : compile .title [.expression "$_ = 3.5".toList] =
      .error ⟨.title, 1, ⟨.decimalNumber, 6⟩⟩ := by
    have hparse : Script.parse "$_ = 3.5".toList = .error ⟨.decimalNumber, 6⟩ :=
      Script.eq_error_of_errorOf? (by decide +kernel)
    simp only [compile, compileSteps, hparse]
    rfl
  obtain ⟨e, he, happly⟩ := (chain_is_pipeline .title fs [.literal "y".toList]).2.2.2.1 _ _ hfs hgs
  refine ⟨⟨e, he, fun ctx value => ?_⟩, ?_⟩
  · have hreaches : ReachesLast ⟨.title, [.set "x".toList, .run [⟨.last, none⟩]]⟩ ctx value :=
      .later (.within (.here rfl (by simp)))
    exact ((happly ctx value).1 hreaches).trans rfl
  · exact (chain_is_pipeline .title fs _).2.2.1 _ _ hfs hrefused

end Editor

end TagEdit
