import TagEdit.Proofs.CaseSpans
import TagEdit.Proofs.Classes
import TagEdit.Proofs.Spelling

/-!
# Lower-case spans

A lower-case span puts each of its pieces in lower case by itself. That differs from the lower case
of the whole text only in a capital sigma, which at the end of a word takes another form, and for
which the end of a piece is the end of a word. So a span agrees with the function exactly where
each of its sigmas ends a word of the whole text or of its piece alike.
-/

namespace TagEdit

namespace Text

open Unicode

/-! ## A text between others -/

/-- Whether a capital sigma ends a word between what precedes it, nearest first, and what comes
after. -/
def endsWord (before after : Text) : Bool := nearCased before && !nearCased after

theorem lowerAt_sigma (before after : Text) :
    lowerAt before 'Σ' after = if endsWord before after then ['ς'] else ['σ'] := by
  rw [lowerAt, if_pos rfl, endsWord]

theorem lowerAt_of_ne {c : Char} (hc : c ≠ 'Σ') (before after : Text) :
    lowerAt before c after = Case.lower c := if_neg hc

/-- The lower case of a text that stands between two others, the first of them nearest first. -/
def lowerBetween (before : Text) : Text → Text → Text
  | [], _ => []
  | c :: rest, after => lowerAt before c (rest ++ after) ++ lowerBetween (c :: before) rest after

theorem lowerBetween_nil (before t : Text) : lowerBetween before t [] = lowerFrom before t := by
  induction t generalizing before with
  | nil => rfl
  | cons c t ih => rw [lowerBetween, lowerFrom, List.append_nil, ih]

theorem lowerFrom_append (before s t : Text) : lowerFrom before (s ++ t) =
    lowerBetween before s t ++ lowerFrom (s.reverse ++ before) t := by
  induction s generalizing before with
  | nil => rfl
  | cons c s ih => simp [lowerBetween, lowerFrom, ih]

variable {before before' after after' : Text}

theorem length_lowerAt (c : Char) :
    (lowerAt before c after).length = (lowerAt before' c after').length := by
  by_cases hc : c = 'Σ'
  · subst hc
    rw [lowerAt_sigma, lowerAt_sigma]
    split <;> split <;> rfl
  · rw [lowerAt_of_ne hc, lowerAt_of_ne hc]

theorem length_lowerBetween (t : Text) :
    (lowerBetween before t after).length = (lowerBetween before' t after').length := by
  induction t generalizing before before' with
  | nil => rfl
  | cons c t ih =>
    rw [lowerBetween, lowerBetween, List.length_append, List.length_append, length_lowerAt, ih]

theorem lowerAt_eq_iff (c : Char) : lowerAt before c after = lowerAt before' c after' ↔
    (c = 'Σ' → endsWord before after = endsWord before' after') := by
  by_cases hc : c = 'Σ'
  · subst hc
    rw [lowerAt_sigma, lowerAt_sigma]
    rcases endsWord before after with _ | _ <;> rcases endsWord before' after' with _ | _ <;> simp
  · simp only [lowerAt_of_ne hc, hc, false_implies]

/-- What stands around a text matters to its capital sigmas only. -/
theorem lowerBetween_eq_iff (t : Text) :
    lowerBetween before t after = lowerBetween before' t after' ↔
      ∀ s u, t = s ++ 'Σ' :: u →
        endsWord (s.reverse ++ before) (u ++ after) = endsWord (s.reverse ++ before') (u ++ after')
    := by
  induction t generalizing before before' with
  | nil => simp [lowerBetween]
  | cons c t ih =>
    rw [lowerBetween, lowerBetween, List.append_eq_append_iff_of_size_eq_left (length_lowerAt c),
      lowerAt_eq_iff, ih]
    constructor
    · rintro ⟨hhead, hrest⟩ s u heq
      rcases s with _ | ⟨a, s⟩
      · obtain ⟨rfl, rfl⟩ := List.cons.inj heq
        exact hhead rfl
      · obtain ⟨rfl, rfl⟩ := List.cons.inj heq
        simpa using hrest s u rfl
    · intro h
      refine ⟨?_, fun s u heq => ?_⟩
      · rintro rfl
        exact h [] t rfl
      · simpa using h (c :: s) u (by rw [heq, List.cons_append])

/-! ## Pieces -/

/-- Each capital sigma in a piece ends a word of the whole text if and only if it ends a word of the
piece. -/
def SigmasStay (pieces : List Text) : Prop :=
  ∀ xs s u ys, pieces = xs ++ (s ++ 'Σ' :: u) :: ys →
    endsWord (s.reverse ++ xs.flatten.reverse) (u ++ ys.flatten) = endsWord s.reverse u

theorem flatMap_lower_eq_iff (pieces : List Text) :
    pieces.flatMap lower = lowerFrom before pieces.flatten ↔
      ∀ xs s u ys, pieces = xs ++ (s ++ 'Σ' :: u) :: ys →
        endsWord (s.reverse ++ (xs.flatten.reverse ++ before)) (u ++ ys.flatten) =
          endsWord s.reverse u := by
  induction pieces generalizing before with
  | nil => simp [lowerFrom]
  | cons t ts ih =>
    have hlower : lower t = lowerBetween [] t [] := (lowerBetween_nil [] t).symm
    rw [List.flatMap_cons, List.flatten_cons, lowerFrom_append, hlower,
      List.append_eq_append_iff_of_size_eq_left (length_lowerBetween t), lowerBetween_eq_iff, ih]
    constructor
    · rintro ⟨hhead, hrest⟩ xs s u ys heq
      rcases xs with _ | ⟨x, xs⟩
      · obtain ⟨rfl, rfl⟩ := List.cons.inj heq
        simpa using (hhead s u rfl).symm
      · obtain ⟨rfl, rfl⟩ := List.cons.inj heq
        simpa using hrest xs s u ys rfl
    · intro h
      refine ⟨fun s u heq => ?_, fun xs s u ys heq => ?_⟩
      · subst heq
        simpa using (h [] s u ts rfl).symm
      · simpa using h (t :: xs) s u ys (by rw [heq, List.cons_append])

/-- The lower case of each piece makes up the lower case of the whole text exactly where the sigmas
stay as they are. -/
theorem flatMap_lower_eq_lower_iff (pieces : List Text) :
    pieces.flatMap lower = lower pieces.flatten ↔ SigmasStay pieces := by
  rw [lower, flatMap_lower_eq_iff]
  simp only [List.append_nil, SigmasStay]

theorem sigmasStay_of_not_mem {pieces : List Text} (h : 'Σ' ∉ pieces.flatten) :
    SigmasStay pieces := by
  rintro xs s u ys rfl
  simp at h

theorem sigmasStay_singleton (t : Text) : SigmasStay [t] := by
  intro xs s u ys h
  rcases xs with _ | ⟨x, xs⟩
  · obtain ⟨-, rfl⟩ := List.cons.inj h
    simp
  · simp at h

theorem nearCased_of_isAlpha {c : Char} (h : c.isAlpha = true) (cs : Text) :
    nearCased (c :: cs) = true := by
  have hlt : c.toNat < 128 := by
    rw [isAlpha_iff] at h
    omega
  have hcased : isCased c = true := by rw [isCased, if_pos hlt, h]
  have hdrop : (c :: cs).dropWhile isCaseIgnorable = c :: cs :=
    List.dropWhile_cons_of_neg (by rw [isCaseIgnorable_of_isAlpha h]; exact Bool.false_ne_true)
  rw [nearCased, hdrop]
  exact hcased

end Text

namespace Script

variable {value : Text} {ctx : Context} {group : Nat → Option Text} {A B : Template}

/-! ## Spans -/

/-- The texts that the pieces of a template put in. -/
def Template.texts (value : Text) (ctx : Context) (group : Nat → Option Text) (B : Template) :
    List Text := B.map (Part.chunk value ctx group)

theorem render_eq_flatten (hB : ∀ m, Part.modifier m ∉ B) :
    render value ctx group B = (Template.texts value ctx group B).flatten := by
  have hfrom : renderFrom value ctx group {} B = (Template.texts value ctx group B).flatten := by
    induction B with
    | nil => rfl
    | cons p ps ih =>
      have hp : ∀ m, p ≠ .modifier m := fun m h => hB m (h ▸ List.mem_cons_self)
      rw [renderFrom_cons hp, CaseState.after_of_next rfl,
        ih fun m h => hB m (List.mem_cons_of_mem _ h)]
      rfl
  exact hfrom

/-- Pieces in a lower-case span are put in lower case one by one. -/
theorem renderFrom_lower (hB : ∀ m, Part.modifier m ∉ B) :
    renderFrom value ctx group { span := some .lower } B =
      (Template.texts value ctx group B).flatMap Text.lower := by
  induction B with
  | nil => rfl
  | cons p ps ih =>
    have hp : ∀ m, p ≠ .modifier m := fun m h => hB m (h ▸ List.mem_cons_self)
    rw [renderFrom_cons hp, CaseState.after_of_next rfl,
      ih fun m h => hB m (List.mem_cons_of_mem _ h)]
    rfl

theorem render_open_span (hA : ∀ m, Part.modifier m ∉ A) (hB : ∀ m, Part.modifier m ∉ B) :
    render value ctx group (A ++ .modifier (.span .lower) :: B) =
      render value ctx group A ++ (Template.texts value ctx group B).flatMap Text.lower := by
  rw [render, renderFrom_append hA rfl, ← renderFrom_lower hB]
  rfl

theorem render_lower_span (hA : ∀ m, Part.modifier m ∉ A) (hB : ∀ m, Part.modifier m ∉ B)
    (C : Template) :
    render value ctx group (A ++ .modifier (.span .lower) :: B ++ .modifier .endSpan :: C) =
      render value ctx group A ++ (Template.texts value ctx group B).flatMap Text.lower ++
        render value ctx group C := by
  have hspan : renderFrom value ctx group {}
      (.modifier (.span .lower) :: (B ++ .modifier .endSpan :: C)) =
        renderFrom value ctx group { span := some .lower } B ++ renderFrom value ctx group {} C :=
    renderFrom_append hB rfl _
  rw [List.append_assoc, List.cons_append, render, renderFrom_append hA rfl, hspan,
    renderFrom_lower hB, List.append_assoc]
  rfl

/-! ## One string and one call -/

/-- The value and the path in a lower-case span. -/
def quotedSpan : Text := "$_ = \"\\L$_$file\"".toList

/-- The lower case of the value and the path. -/
def lowerCall : Text := "$_ = lc($_ . $file)".toList

/-- The script of a source with known tokens. -/
theorem parse_of_tokenize {source : Text} {ts : Tokens} {p : Script}
    (h : tokenize source = .ok ts) (hp : DerivesScript (ts.list.map Placed.token) p) :
    Script.parse source = .ok p := by
  unfold Script.parse
  rw [h]
  exact hp.parses ts.stop

theorem parse_quotedSpan : Script.parse quotedSpan =
    .ok [⟨.assign (.template [.modifier (.span .lower), .var .value, .var .file]), none⟩] := by
  have htokens : tokenize quotedSpan = .ok ⟨[⟨.var Var.value.name, 1⟩, ⟨.assign, 4⟩,
      ⟨.interpolated "\\L$_$file".toList, 6⟩], 17⟩ := by decide +kernel
  have hbody : Template.parse false "\\L$_$file".toList =
      .ok [.modifier (.span .lower), .var .value, .var .file] := by decide +kernel
  exact parse_of_tokenize htokens
    (.last (.some (.bare (.assign .assign (.atom (.interpolated hbody))))))

theorem parse_lowerCall : Script.parse lowerCall =
    .ok [⟨.assign (.call .lc (.concat (.var .value) (.var .file))), none⟩] := by
  have htokens : tokenize lowerCall = .ok ⟨[⟨.var Var.value.name, 1⟩, ⟨.assign, 4⟩,
      ⟨.ident Func.lc.name, 6⟩, ⟨.openParen, 8⟩, ⟨.var Var.value.name, 9⟩, ⟨.dot, 12⟩,
      ⟨.var Var.file.name, 14⟩, ⟨.closeParen, 19⟩], 20⟩ := by decide +kernel
  have hconcat : DerivesExpr [.var Var.value.name, .dot, .var Var.file.name]
      (.concat (.var .value) (.var .file)) := .concat (.atom (.var .value)) (.var .file)
  exact parse_of_tokenize htokens
    (.last (.some (.bare (.assign .assign (.atom (.call .lc hconcat))))))

theorem append_lower_span_iff (value : Text) (ctx : Context) (group : Nat → Option Text)
    (hB : ∀ m, Part.modifier m ∉ B) (front rest : Text) :
    front ++ (Template.texts value ctx group B).flatMap Text.lower ++ rest =
        front ++ Func.lc.apply (render value ctx group B) ++ rest ↔
      Text.SigmasStay (Template.texts value ctx group B) := by
  rw [List.append_left_inj, List.append_right_inj, render_eq_flatten hB]
  exact Text.flatMap_lower_eq_lower_iff _

/-- A lower-case span agrees with the function exactly where its capital sigmas stay as they are:
each of them ends a word of the text in the span if and only if it ends a word of its piece. That is
so where the span holds no capital sigma or one piece only. It is the same for a span without an end
and for the string and the call that put the value and the path in lower case. -/
theorem lower_span_eq_lc_iff (value : Text) (ctx : Context) (group : Nat → Option Text)
    (A B C : Template) (hA : ∀ m, Part.modifier m ∉ A) (hB : ∀ m, Part.modifier m ∉ B) :
    let pieces := Template.texts value ctx group B
    (render value ctx group (A ++ .modifier (.span .lower) :: B ++ .modifier .endSpan :: C) =
        render value ctx group A ++ Func.lc.apply (render value ctx group B) ++
          render value ctx group C ↔ Text.SigmasStay pieces) ∧
      (render value ctx group (A ++ .modifier (.span .lower) :: B) =
        render value ctx group A ++ Func.lc.apply (render value ctx group B) ↔
          Text.SigmasStay pieces) ∧
      ('Σ' ∉ render value ctx group B ∨ B.length ≤ 1 → Text.SigmasStay pieces) ∧
      ∃ p q, Script.parse quotedSpan = .ok p ∧ Script.parse lowerCall = .ok q ∧
        (p.run ctx value = q.run ctx value ↔ Text.SigmasStay [value, ctx.file]) := by
  intro pieces
  refine ⟨?_, ?_, ?_, _, _, parse_quotedSpan, parse_lowerCall, ?_⟩
  · rw [render_lower_span hA hB]
    exact append_lower_span_iff value ctx group hB _ _
  · have hiff := append_lower_span_iff value ctx group hB (render value ctx group A) []
    rw [render_open_span hA hB]
    rwa [List.append_nil, List.append_nil] at hiff
  · rintro (hsigma | hlength)
    · exact Text.sigmasStay_of_not_mem (render_eq_flatten hB ▸ hsigma)
    · rcases B with _ | ⟨p, _ | ⟨q, B⟩⟩
      · exact Text.sigmasStay_of_not_mem List.not_mem_nil
      · exact Text.sigmasStay_singleton _
      · simp at hlength
  · have hspan : run ctx value
        [⟨.assign (.template [.modifier (.span .lower), .var .value, .var .file]), none⟩] =
          ([value, ctx.file].flatMap Text.lower, .proceed) :=
      congrArg (·, Flow.proceed) (render_open_span (A := []) (by simp) (by simp))
    have hcall : run ctx value [⟨.assign (.call .lc (.concat (.var .value) (.var .file))), none⟩] =
        (Text.lower [value, ctx.file].flatten, .proceed) := by
      rw [List.flatten_cons, List.flatten_singleton]
      rfl
    rw [hspan, hcall, Prod.mk.injEq, and_iff_left rfl]
    exact Text.flatMap_lower_eq_lower_iff _

/-- In front of a capital sigma a piece has ended with a letter: the sigma ends a word of the whole
text, but no word of its own piece. -/
theorem lower_span_parts_sigma :
    let ctx : Context := ⟨['Σ'], "0:00".toList, 0⟩
    let span : Template := [.modifier (.span .lower), .var .value, .var .file, .modifier .endSpan]
    render ['A'] ctx (fun _ => none) span = ['a', 'σ'] ∧
      Func.lc.apply (render ['A'] ctx (fun _ => none) [.var .value, .var .file]) = ['a', 'ς'] ∧
      ∃ p q, Script.parse quotedSpan = .ok p ∧ Script.parse lowerCall = .ok q ∧
        p.run ctx ['A'] = (['a', 'σ'], .proceed) ∧ q.run ctx ['A'] = (['a', 'ς'], .proceed) := by
  intro ctx span
  have hA : Text.lowerAt [] 'A' [] = ['a'] := by
    rw [Text.lowerAt_of_ne (by decide)]
    decide
  have hA' : Text.lowerAt [] 'A' ['Σ'] = ['a'] := by
    rw [Text.lowerAt_of_ne (by decide)]
    decide
  have hown : Text.lowerAt [] 'Σ' [] = ['σ'] := by
    rw [Text.lowerAt_sigma]
    decide
  have hwhole : Text.lowerAt ['A'] 'Σ' [] = ['ς'] := by
    rw [Text.lowerAt_sigma, Text.endsWord, Text.nearCased_of_isAlpha (by decide)]
    decide
  have hparts : [['A'], ['Σ']].flatMap Text.lower = ['a', 'σ'] := by
    simp only [List.flatMap_cons, List.flatMap_nil, Text.lower, Text.lowerFrom, hA, hown,
      List.append_nil, List.singleton_append]
  have hall : Text.lower ['A', 'Σ'] = ['a', 'ς'] := by
    simp only [Text.lower, Text.lowerFrom, hA', hwhole, List.append_nil, List.singleton_append]
  have hspan : render ['A'] ctx (fun _ => none) span = ['a', 'σ'] :=
    (render_lower_span (A := []) (B := [.var .value, .var .file]) (by simp) (by simp) []).trans
      ((List.append_nil _).trans hparts)
  have hopen : render ['A'] ctx (fun _ => none)
      [.modifier (.span .lower), .var .value, .var .file] = ['a', 'σ'] :=
    (render_open_span (A := []) (by simp) (by simp)).trans hparts
  exact ⟨hspan, hall, _, _, parse_quotedSpan, parse_lowerCall, congrArg (·, Flow.proceed) hopen,
    congrArg (·, Flow.proceed) hall⟩

/-- The sigma of the value stands in front of a letter of its own piece. -/
theorem lower_span_eq_lc_iff_inner :
    let ctx : Context := ⟨"CD".toList, "0:00".toList, 0⟩
    let pieces : Template := [.var .value, .text "-".toList, .var .file]
    (∀ m, Part.modifier m ∉ [Part.text "On ".toList]) ∧ (∀ m, Part.modifier m ∉ pieces) ∧
      render ['A', 'Σ', 'B'] ctx (fun _ => none) ([.text "On ".toList] ++
          .modifier (.span .lower) :: pieces ++ .modifier .endSpan :: [.text "!".toList]) =
        "On ".toList ++ Func.lc.apply "AΣB-CD".toList ++ "!".toList := by
  intro ctx pieces
  have htext : ∀ m, Part.modifier m ∉ [Part.text "On ".toList] := by simp
  have hpieces : ∀ m, Part.modifier m ∉ pieces := by simp [pieces]
  have hstay : Text.SigmasStay [['A', 'Σ', 'B'], ['-'], ['C', 'D']] := by
    intro xs s u ys h
    have hparts : xs = [] ∧ s = ['A'] ∧ u = ['B'] := by
      rcases xs with _ | ⟨x, _ | ⟨y, _ | ⟨z, xs⟩⟩⟩
      · rcases s with _ | ⟨a, _ | ⟨b, _ | ⟨c, s⟩⟩⟩ <;> simp at h
        obtain ⟨⟨rfl, rfl⟩, -⟩ := h
        exact ⟨rfl, rfl, rfl⟩
      all_goals rcases s with _ | ⟨a, _ | ⟨b, s⟩⟩ <;> simp at h
    obtain ⟨rfl, rfl, rfl⟩ := hparts
    simp [Text.endsWord, Text.nearCased_of_isAlpha (c := 'B') (by decide)]
  exact ⟨htext, hpieces, (lower_span_eq_lc_iff ['A', 'Σ', 'B'] ctx (fun _ => none) _ pieces
    [.text "!".toList] htext hpieces).1.mpr hstay⟩

end Script

end TagEdit
