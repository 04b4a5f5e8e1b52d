import TagEdit.Script.Eval

/-!
# Changes of case in templates

A template is rendered piece by piece, with the change of case in force carried along. Seen from
outside, a change for the next character is the function that changes the first character of what
follows, and a span is the function that changes all of it.
-/

namespace TagEdit

/-! ## Nothing vanishes -/

namespace Text

open Unicode

-- The table is read as a list of characters first: a kernel is slow to take a text apart.
set_option maxRecDepth 20000 in
theorem upperSpecialForms_ne_nil : (Case.upperSpecialForms.all fun e => !e.2.isEmpty) = true := by
  change ((CharSet.entries (String.ofList _).toList).map _).all _ = true
  rw [String.toList_ofList]
  decide +kernel

theorem caseUpper_ne_nil (c : Char) : Case.upper c ≠ [] := by
  unfold Case.upper
  split
  · exact List.cons_ne_nil _ _
  · split
    · rename_i cs h
      obtain ⟨l, r, hform, -⟩ := List.lookup_eq_some_iff.mp h
      have hne := List.all_eq_true.mp upperSpecialForms_ne_nil (c.toNat, cs) (hform ▸ by simp)
      simpa using hne
    · exact List.cons_ne_nil _ _

theorem caseLower_ne_nil (c : Char) : Case.lower c ≠ [] := by
  unfold Case.lower
  repeat' split
  all_goals exact List.cons_ne_nil _ _

theorem lowerAt_ne_nil (before : Text) (c : Char) (after : Text) : lowerAt before c after ≠ [] := by
  unfold lowerAt
  split
  · split <;> exact List.cons_ne_nil _ _
  · exact caseLower_ne_nil c

theorem cast_ne_nil (k : Casing) {t : Text} (h : t ≠ []) : cast k t ≠ [] := by
  rcases t with _ | ⟨c, rest⟩
  · exact absurd rfl h
  · cases k with
    | upper => exact List.append_ne_nil_of_left_ne_nil (caseUpper_ne_nil c) _
    | lower => exact List.append_ne_nil_of_left_ne_nil (lowerAt_ne_nil [] c rest) _

theorem castFirst_append (k : Casing) {s : Text} (h : s ≠ []) (t : Text) :
    castFirst k (s ++ t) = castFirst k s ++ t := by
  rcases s with _ | ⟨c, rest⟩
  · exact absurd rfl h
  · simp only [castFirst, List.cons_append, mapFirst, List.append_assoc]

end Text

namespace Script

variable {value : Text} {ctx : Context} {group : Nat → Option Text} {s : CaseState} {p : Part}
  {A B C X : Template}

theorem renderFrom_cons (hp : ∀ m, p ≠ .modifier m) (ps : Template) :
    renderFrom value ctx group s (p :: ps) = s.apply (p.chunk value ctx group) ++
      renderFrom value ctx group (s.after (p.chunk value ctx group)) ps := by
  cases p with
  | modifier m => exact absurd rfl (hp m)
  | _ => rfl

theorem CaseState.after_of_next (hs : s.next = none) (chunk : Text) : s.after chunk = s := by
  unfold CaseState.after
  split
  · rfl
  · rw [← hs]

theorem CaseState.apply_next (hs : s.next = none) (k : Casing) (chunk : Text) :
    ({ s with next := some k } : CaseState).apply chunk = Text.castFirst k (s.apply chunk) := by
  simp only [CaseState.apply, hs, Option.elim_some, Option.elim_none]

theorem CaseState.apply_ne_nil (hs : s.next = none) {chunk : Text} (h : chunk ≠ []) :
    s.apply chunk ≠ [] := by
  rw [CaseState.apply, hs, Option.elim_none]
  cases s.span with
  | none => exact h
  | some k => exact Text.cast_ne_nil k h

theorem CaseState.apply_nil (hs : s.next = none) : s.apply [] = [] := by
  rw [CaseState.apply, hs, Option.elim_none]
  cases s.span with
  | none => rfl
  | some k => exact Text.cast_nil k

/-! ## The next character -/

/-- A change for the next character changes the first character of the rest. Pieces that put nothing
in leave it in force, so the induction goes on until one puts something in. -/
theorem renderFrom_next (k : Casing) (hX : ∀ l, Part.modifier (.next l) ∉ X) (hs : s.next = none) :
    renderFrom value ctx group { s with next := some k } X =
      Text.castFirst k (renderFrom value ctx group s X) := by
  induction X generalizing s with
  | nil => rfl
  | cons p ps ih =>
    have hps : ∀ l, Part.modifier (.next l) ∉ ps := fun l h => hX l (List.mem_cons_of_mem _ h)
    by_cases hp : ∀ m, p ≠ .modifier m
    · rw [renderFrom_cons hp, renderFrom_cons hp, CaseState.apply_next hs,
        CaseState.after_of_next hs]
      rcases hchunk : p.chunk value ctx group with _ | ⟨c, rest⟩
      · rw [CaseState.apply_nil hs]
        exact ih hps hs
      · rw [Text.castFirst_append k (CaseState.apply_ne_nil hs (List.cons_ne_nil c rest))]
        simp only [CaseState.after, List.isEmpty_cons, Bool.false_eq_true, if_false, ← hs]
    · obtain ⟨m, hm⟩ := Classical.not_forall.mp hp
      obtain rfl := Classical.not_not.mp hm
      cases m with
      | next l => exact absurd List.mem_cons_self (hX l)
      | span l => exact ih (s := { s with span := some l }) hps hs
      | endSpan => exact ih (s := { s with span := none }) hps hs

/-- A change for the next character in front of a template without any. -/
theorem render_next (k : Casing) (hX : ∀ l, Part.modifier (.next l) ∉ X) :
    render value ctx group (.modifier (.next k) :: X) =
      Text.castFirst k (render value ctx group X) :=
  renderFrom_next k hX rfl

/-! ## Spans -/

theorem renderFrom_append (hA : ∀ m, Part.modifier m ∉ A) (hs : s.next = none) (B : Template) :
    renderFrom value ctx group s (A ++ B) =
      renderFrom value ctx group s A ++ renderFrom value ctx group s B := by
  induction A with
  | nil => rfl
  | cons p ps ih =>
    have hp : ∀ m, p ≠ .modifier m := fun m h => hA m (h ▸ List.mem_cons_self)
    rw [List.cons_append, renderFrom_cons hp, renderFrom_cons hp, CaseState.after_of_next hs,
      ih fun m h => hA m (List.mem_cons_of_mem _ h), List.append_assoc]

/-- Pieces in an upper-case span are put in upper case one by one. -/
theorem renderFrom_upper (hB : ∀ m, Part.modifier m ∉ B) :
    renderFrom value ctx group { span := some .upper } B =
      Text.upper (renderFrom value ctx group {} B) := by
  induction B with
  | nil => rfl
  | cons p ps ih =>
    have hp : ∀ m, p ≠ .modifier m := fun m h => hB m (h ▸ List.mem_cons_self)
    rw [renderFrom_cons hp, renderFrom_cons hp, CaseState.after_of_next rfl,
      CaseState.after_of_next rfl, ih fun m h => hB m (List.mem_cons_of_mem _ h),
      Text.upper_append]
    rfl

/-- An upper-case span between templates without changes of case. -/
theorem render_upper_span (hA : ∀ m, Part.modifier m ∉ A) (hB : ∀ m, Part.modifier m ∉ B)
    (C : Template) :
    render value ctx group (A ++ .modifier (.span .upper) :: B ++ .modifier .endSpan :: C) =
      render value ctx group A ++ Text.upper (render value ctx group B) ++
        render value ctx group C := by
  have hspan : renderFrom value ctx group {}
      (.modifier (.span .upper) :: (B ++ .modifier .endSpan :: C)) =
        renderFrom value ctx group { span := some .upper } B ++ renderFrom value ctx group {} C :=
    renderFrom_append hB rfl _
  rw [List.append_assoc, List.cons_append, render, renderFrom_append hA rfl, hspan,
    renderFrom_upper hB, List.append_assoc]
  rfl

/-- Changes of case in a template agree with the functions. A change for the next character is the
function of the same name, applied to what follows, whichever piece of that comes first with some
text; an upper-case span is the function for the whole, applied to what stands in the span. -/
theorem render_modifiers_eq_functions (value : Text) (ctx : Context) (group : Nat → Option Text)
    (X A B C : Template) (hX : ∀ k, Part.modifier (.next k) ∉ X) (hA : ∀ m, Part.modifier m ∉ A)
    (hB : ∀ m, Part.modifier m ∉ B) :
    render value ctx group (.modifier (.next .upper) :: X) =
        Func.ucfirst.apply (render value ctx group X) ∧
      render value ctx group (.modifier (.next .lower) :: X) =
        Func.lcfirst.apply (render value ctx group X) ∧
      render value ctx group (A ++ .modifier (.span .upper) :: B ++ .modifier .endSpan :: C) =
        render value ctx group A ++ Func.uc.apply (render value ctx group B) ++
          render value ctx group C :=
  ⟨render_next .upper hX, render_next .lower hX, render_upper_span hA hB C⟩

/-- A group that took no part stands in front of a lower-case span. -/
theorem render_modifiers_eq_functions_side :
    let ctx : Context := ⟨"a.mp3".toList, "3:07".toList, 187⟩
    let rest : Template := [.group 1, .modifier (.span .lower), .var .value, .modifier .endSpan]
    (∀ k, Part.modifier (.next k) ∉ rest) ∧
      (∀ m, Part.modifier m ∉ [Part.text "on ".toList]) ∧
      (∀ m, Part.modifier m ∉ [Part.var .value]) ∧
      render "SIDE b".toList ctx (fun _ => none) (.modifier (.next .upper) :: rest) =
        Func.ucfirst.apply "side b".toList ∧
      render "side b".toList ctx (fun _ => none) ([.text "on ".toList] ++
          .modifier (.span .upper) :: [.var .value] ++ .modifier .endSpan :: [.text "!".toList]) =
        "on ".toList ++ Func.uc.apply "side b".toList ++ "!".toList := by
  intro ctx rest
  have hrest : ∀ k, Part.modifier (.next k) ∉ rest := by simp [rest]
  have htext : ∀ m, Part.modifier m ∉ [Part.text "on ".toList] := by simp
  have hvar : ∀ m, Part.modifier m ∉ [Part.var .value] := by simp
  refine ⟨hrest, htext, hvar, ?_, ?_⟩
  · have h := (render_modifiers_eq_functions "SIDE b".toList ctx (fun _ => none) rest [] [] []
      hrest (by simp) (by simp)).1
    exact h.trans (congrArg _ (by decide +kernel))
  · exact (render_modifiers_eq_functions "side b".toList ctx (fun _ => none) [] _ _
      [.text "!".toList] (by simp) htext hvar).2.2

end Script

end TagEdit
