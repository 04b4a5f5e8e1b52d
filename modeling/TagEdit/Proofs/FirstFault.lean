import TagEdit.Proofs.Acceptance
import TagEdit.Proofs.Compilation
import TagEdit.Proofs.Pipeline
import TagEdit.Proofs.ValueOrder

/-!
# The first fault of a registry

Fragments are registered one after the other, each for one field or for all. What a registry
compiles to depends on the chains of the fields alone. If scripts are refused, the one that is
reported comes first: in the first field that has one, at the first place of that field's chain.
-/

namespace TagEdit

/-- The fragments that some registrations give to a field, in order. -/
def registered (steps : List (Target × Fragment)) (f : Field) : List Fragment :=
  steps.filterMap fun s => if s.1.covers f then some s.2 else none

/-- The script at a place of a field's chain is refused. -/
def FaultAt (steps : List (Target × Fragment)) (f : Field) (place : Nat)
    (e : Script.SyntaxError) : Prop :=
  ∃ source, (registered steps f)[place]? = some (.expression source) ∧
    Script.parse source = .error e

variable {steps : List (Target × Fragment)} {f : Field}

theorem fragments_foldl_empty (steps : List (Target × Fragment)) (f : Field) :
    (steps.foldl Registry.add .empty).fragments f = registered steps f :=
  Matches.fragments_foldl_add steps .empty f

theorem faultAt_iff {place : Nat} {e : Script.SyntaxError} :
    FaultAt steps f place e ↔ ∃ a, (registered steps f)[place]? = some a ∧ a.step = .error e := by
  simp only [FaultAt, Fragment.step_eq_error_iff]
  constructor
  · rintro ⟨source, hplace, hparse⟩
    exact ⟨_, hplace, source, rfl, hparse⟩
  · rintro ⟨a, hplace, source, rfl, hparse⟩
    exact ⟨source, hplace, hparse⟩

/-- A chain compiles if no place of it has a fault. -/
theorem exists_compile_iff_faultless :
    (∃ a, Editor.compile f (registered steps f) = .ok a) ↔ ∀ place e, ¬ FaultAt steps f place e := by
  simp only [Editor.exists_compile_iff, faultAt_iff, List.mem_iff_getElem?]
  constructor
  · rintro h place e ⟨a, hplace, herror⟩
    obtain ⟨s, hs⟩ := h a ⟨place, hplace⟩
    rw [herror] at hs
    cases hs
  · rintro h a ⟨place, hplace⟩
    rcases hs : a.step with e | s
    · exact absurd ⟨a, hplace, hs⟩ (h place e)
    · exact ⟨s, rfl⟩

/-- The error of a chain lies at the first place that has a fault. -/
theorem compile_eq_error_iff_faultAt {e : CompileError} :
    Editor.compile f (registered steps f) = .error e ↔
      ∃ place, FaultAt steps f place e.error ∧ e.field = f ∧ e.fragment = place + 1 ∧
        ∀ earlier e', FaultAt steps f earlier e' → place ≤ earlier := by
  rw [Editor.compile_eq_error_iff, Editor.compileSteps_eq_error_iff]
  simp only [faultAt_iff]
  constructor
  · rintro ⟨before, a, after, hsplit, hbefore, ha, hfield, hnumber⟩
    refine ⟨before.length, ⟨a, by simp [hsplit], ha⟩, hfield, by omega, ?_⟩
    rintro earlier e' ⟨b, hb, hfault⟩
    by_contra hlt
    have hmem : b ∈ before := by
      rw [hsplit, List.getElem?_append_left (by omega)] at hb
      exact List.mem_of_getElem? hb
    obtain ⟨s, hs⟩ := hbefore b hmem
    rw [hfault] at hs
    cases hs
  · rintro ⟨place, ⟨a, hplace, ha⟩, hfield, hnumber, hfirst⟩
    obtain ⟨hlt, ha'⟩ := List.getElem?_eq_some_iff.mp hplace
    refine ⟨(registered steps f).take place, a, (registered steps f).drop (place + 1), ?_, ?_, ha,
      hfield, ?_⟩
    · rw [← ha', ← List.drop_eq_getElem_cons hlt, List.take_append_drop]
    · intro b hb
      obtain ⟨i, hi⟩ := List.mem_iff_getElem?.mp hb
      rcases hs : b.step with e' | s
      · obtain ⟨hi', -⟩ := List.getElem?_eq_some_iff.mp hi
        have hlt : i < place := by
          rw [List.length_take] at hi'
          omega
        rw [List.getElem?_take_of_lt hlt] at hi
        exact absurd (hfirst i e' ⟨b, hi, hs⟩) (by omega)
      · exact ⟨s, rfl⟩
    · rw [List.length_take, Nat.min_eq_left (by omega)]
      omega

/-- The fields before another one are those of a lower index. -/
theorem mem_before_iff {before after : List Field} {g h : Field}
    (hall : Field.all = before ++ g :: after) : h ∈ before ↔ h.index < g.index := by
  have hsorted : (before ++ g :: after).Pairwise fun a b => a.index < b.index := by
    rw [← hall]
    decide
  obtain ⟨-, hafter, hbefore⟩ := List.pairwise_append.mp hsorted
  refine ⟨fun hh => hbefore h hh g List.mem_cons_self, fun hlt => ?_⟩
  have hh : h ∈ before ++ g :: after := hall ▸ Field.mem_all h
  rcases List.mem_append.mp hh with hh | hh
  · exact hh
  rcases List.mem_cons.mp hh with rfl | hh
  · exact absurd hlt (Nat.lt_irrefl _)
  · exact absurd hlt (Nat.not_lt_of_gt ((List.pairwise_cons.mp hafter).1 h hh))

/-- The error of a registry is that of the first place with a fault in the first field that has
one. -/
theorem registry_eq_error_iff_faultAt {e : CompileError} :
    (steps.foldl Registry.add .empty).compile = .error e ↔
      ∃ place, FaultAt steps e.field place e.error ∧ e.fragment = place + 1 ∧
        ∀ g other e', FaultAt steps g other e' →
          e.field.index < g.index ∨ e.field = g ∧ place ≤ other := by
  rw [Registry.compile_eq_error_iff, Registry.compileFields_eq_error_iff]
  simp only [fragments_foldl_empty, exists_compile_iff_faultless, compile_eq_error_iff_faultAt]
  constructor
  · rintro ⟨before, f, after, hall, hbefore, place, hfault, rfl, hnumber, hfirst⟩
    refine ⟨place, hfault, hnumber, fun g other e' hother => ?_⟩
    by_cases hg : g = e.field
    · subst hg
      exact .inr ⟨rfl, hfirst other e' hother⟩
    · refine .inl (Nat.lt_of_le_of_ne (Nat.not_lt.mp fun hlt => ?_) fun heq => ?_)
      · exact hbefore g ((mem_before_iff hall).mpr hlt) other e' hother
      · exact hg (Field.index_inj heq.symm)
  · rintro ⟨place, hfault, hnumber, hfirst⟩
    obtain ⟨before, after, hall⟩ := List.append_of_mem (Field.mem_all e.field)
    refine ⟨before, e.field, after, hall, fun g hg other e' hother => ?_, place, hfault, rfl,
      hnumber, fun other e' hother => ?_⟩
    · have hlt := (mem_before_iff hall).mp hg
      rcases hfirst g other e' hother with h | ⟨h, -⟩
      · exact Nat.lt_asymm hlt h
      · rw [h] at hlt
        exact Nat.lt_irrefl _ hlt
    · rcases hfirst e.field other e' hother with h | ⟨-, h⟩
      · exact absurd h (Nat.lt_irrefl _)
      · exact h

/-- Registrations compile if no script among them is refused. Otherwise the error that is reported
is that of the first fault, by the order of the fields and then by the place in the chain.
Registrations that give every field the same chain compile to the same editors, or fail with the
same error. -/
theorem compile_reports_first_fault (steps : List (Target × Fragment)) :
    let r := steps.foldl Registry.add .empty
    ((∃ editors, r.compile = .ok editors) ↔
      ∀ f source, .expression source ∈ registered steps f →
        ∃ p, Script.parse source = .ok p) ∧
    (∀ e, r.compile = .error e ↔
      ∃ place, FaultAt steps e.field place e.error ∧ e.fragment = place + 1 ∧
        ∀ g other e', FaultAt steps g other e' →
          e.field.index < g.index ∨ e.field = g ∧ place ≤ other) ∧
    (∀ editors, r.compile = .ok editors → ∀ f,
      Editor.compile f (registered steps f) = .ok (editors.get f)) ∧
    ∀ steps' : List (Target × Fragment), (∀ f, registered steps' f = registered steps f) →
      (steps'.foldl Registry.add .empty).compile = r.compile := by
  intro r
  have hfragments : ∀ f, r.fragments f = registered steps f := fragments_foldl_empty steps
  refine ⟨?_, fun e => registry_eq_error_iff_faultAt, fun editors h f => ?_,
    fun steps' hsame => ?_⟩
  · rw [Registry.exists_compile_iff]
    simp only [hfragments, Fragment.exists_step_iff]
    constructor
    · intro h f source hmem
      exact h f _ hmem source rfl
    · rintro h f a hmem source rfl
      exact h f source hmem
  · have hcompile := r.compile_get h f
    rwa [hfragments] at hcompile
  · refine Registry.compile_congr fun f => ?_
    rw [hfragments, fragments_foldl_empty, hsame]

/-- The comment is registered first and its fault is in its first fragment, but the artist comes
before it: the fault that is reported is the second fragment of the artist. -/
theorem compile_reports_first_fault_artist :
    let bad : Fragment := .expression "$_ = 3.5".toList
    (([(.one .comment, bad), (.every, .literal "x".toList), (.one .artist, bad)] :
        List (Target × Fragment)).foldl Registry.add .empty).compile =
      .error ⟨.artist, 2, ⟨.decimalNumber, 6⟩⟩ := by
  intro bad
  have hparse : Script.parse "$_ = 3.5".toList = .error ⟨.decimalNumber, 6⟩ :=
    Script.eq_error_of_errorOf? (by decide +kernel)
  have hsteps := compile_reports_first_fault
    [(.one .comment, bad), (.every, .literal "x".toList), (.one .artist, bad)]
  refine (hsteps.2.1 ⟨.artist, 2, ⟨.decimalNumber, 6⟩⟩).mpr
    ⟨1, ⟨_, rfl, hparse⟩, rfl, fun g other e' hother => ?_⟩
  obtain ⟨source, hplace, -⟩ := hother
  cases g <;> rcases other with _ | _ | other <;>
    simp [registered, Target.covers, bad, Field.index] at hplace ⊢

end TagEdit
