import TagEdit.Proofs.Delivery
import TagEdit.Proofs.Utf8

/-!
# What can be read off a report

The calls of a report open with texts of which none begins another. So a report is read call by
call, as far as it can be seen where the texts in it end. A text ends where its closing comes, a
line break and the opening of what may follow, and nothing in it is escaped: if it holds all that
itself, it is cut short, and what one call writes is also what other calls write.
-/

namespace TagEdit

namespace Report

open TagEdit.Path

/-! ## Openings -/

/-- What stands before the old text of a change. -/
def fieldOpening (f : Field) : Text := padLabel f.label.toList ++ " : \"".toList

/-- What stands before the new text of a change. -/
def newOpening : Text := padLabel [] ++ " : \"".toList

def unchangedOpening : Text := "Unchanged tags in ".toList

def updatingOpening : Text := "Updating tags in ".toList

/-- What a call that is told on the output stream begins with. -/
def Call.opening : Call → Text
  | .fieldChange f _ _ => fieldOpening f
  | .unchanged _ => unchangedOpening
  | .updating _ => updatingOpening
  | .failure _ _ => []

/-- What comes behind the opening: each text with its closing, which a path lacks, and a line
break. -/
def Call.body : Call → Text
  | .fieldChange _ old new => old ++ ['"'] ++ '\n' :: (newOpening ++ (new ++ ['"'] ++ ['\n']))
  | .unchanged p | .updating p => display p ++ [] ++ ['\n']
  | .failure _ _ => []

/-- Every opening of a call. -/
def openings : List Text := Field.all.map fieldOpening ++ [unchangedOpening, updatingOpening]

/-- The call is told on the output stream. -/
def Call.ToldOut (c : Call) : Prop := ∀ w ∈ c.lines, w.1 = .out

instance (c : Call) : Decidable c.ToldOut := inferInstanceAs (Decidable (∀ w ∈ _, _))

/-- What a call writes to the output stream. -/
def Call.shown (c : Call) : Text := (textsOn .out c.lines).flatten

theorem toldOut_fieldChange (f : Field) (old new : Text) : (Call.fieldChange f old new).ToldOut :=
  List.forall_mem_cons.mpr ⟨rfl, List.forall_mem_singleton.mpr rfl⟩

theorem toldOut_unchanged (p : FilePath) : (Call.unchanged p).ToldOut :=
  List.forall_mem_singleton.mpr rfl

theorem toldOut_updating (p : FilePath) : (Call.updating p).ToldOut :=
  List.forall_mem_singleton.mpr rfl

theorem not_toldOut_failure (p : FilePath) (message : Text) :
    ¬ (Call.failure p message).ToldOut := fun h => nomatch h _ List.mem_cons_self

theorem changeLine_eq (label value : Text) :
    changeLine label value = padLabel label ++ " : \"".toList ++ (value ++ ['"'] ++ ['\n']) := by
  have hclose : "\"\n".toList = ['"', '\n'] := by decide
  rw [changeLine, hclose, List.append_assoc, List.append_assoc value]
  rfl

theorem Call.shown_eq {c : Call} (h : c.ToldOut) : c.shown = c.opening ++ c.body := by
  cases c with
  | fieldChange f old new =>
    have hshown : (Call.fieldChange f old new).shown =
        changeLine f.label.toList old ++ (changeLine [] new ++ []) := rfl
    rw [hshown, changeLine_eq, changeLine_eq, List.append_nil, opening, body, fieldOpening,
      newOpening]
    simp only [List.append_assoc, List.cons_append, List.nil_append]
  | unchanged p =>
    have hshown : (Call.unchanged p).shown = unchangedOpening ++ display p ++ ['\n'] ++ [] := rfl
    rw [hshown, opening, body, List.append_nil, List.append_nil, List.append_assoc]
  | updating p =>
    have hshown : (Call.updating p).shown = updatingOpening ++ display p ++ ['\n'] ++ [] := rfl
    rw [hshown, opening, body, List.append_nil, List.append_nil, List.append_assoc]
  | failure p message => exact absurd h (not_toldOut_failure p message)

theorem shown_fieldChange (f : Field) (old new : Text) :
    (Call.fieldChange f old new).shown =
      fieldOpening f ++ (old ++ '"' :: '\n' :: newOpening) ++ (new ++ ['"'] ++ ['\n']) := by
  rw [Call.shown_eq (toldOut_fieldChange f old new)]
  simp [Call.opening, Call.body]

theorem shown_unchanged_encode (t : Text) :
    (Call.unchanged (Utf8.encode t)).shown = unchangedOpening ++ (t ++ [] ++ ['\n']) := by
  rw [Call.shown_eq (toldOut_unchanged _), Call.opening, Call.body, display,
    Utf8.decodeLossy_encode]

theorem shown_updating_encode (t : Text) :
    (Call.updating (Utf8.encode t)).shown = updatingOpening ++ (t ++ [] ++ ['\n']) := by
  rw [Call.shown_eq (toldOut_updating _), Call.opening, Call.body, display,
    Utf8.decodeLossy_encode]

theorem mem_openings {c : Call} (h : c.ToldOut) : c.opening ∈ openings := by
  cases c with
  | fieldChange f old new => exact List.mem_append_left _ (List.mem_map_of_mem f.mem_all)
  | unchanged p => exact List.mem_append_right _ List.mem_cons_self
  | updating p => exact List.mem_append_right _ (List.mem_cons_of_mem _ List.mem_cons_self)
  | failure p message => exact absurd h (not_toldOut_failure p message)

/-- No opening begins another. -/
theorem eq_of_prefix_openings : ∀ m ∈ openings, ∀ m' ∈ openings, m <+: m' → m = m' := by
  decide +kernel

theorem ne_nil_of_mem_openings : ∀ m ∈ openings, m ≠ [] := by decide +kernel

theorem not_mem_of_mem_openings : ∀ m ∈ openings, '\n' ∉ m := by decide +kernel

theorem not_mem_newOpening : '\n' ∉ newOpening := by decide +kernel

theorem fieldOpening_inj {f g : Field} (h : fieldOpening f = fieldOpening g) : f = g := by
  have hall : ∀ f ∈ Field.all, ∀ g ∈ Field.all, fieldOpening f = fieldOpening g → f = g := by
    decide +kernel
  exact hall f f.mem_all g g.mem_all h

theorem fieldOpening_ne (f : Field) :
    fieldOpening f ≠ unchangedOpening ∧ fieldOpening f ≠ updatingOpening := by
  have hall : ∀ f ∈ Field.all,
      fieldOpening f ≠ unchangedOpening ∧ fieldOpening f ≠ updatingOpening := by decide +kernel
  exact hall f f.mem_all

theorem unchangedOpening_ne : unchangedOpening ≠ updatingOpening := by decide +kernel

theorem opening_append_inj {m m' t t' : Text} (hm : m ∈ openings) (hm' : m' ∈ openings)
    (h : m ++ t = m' ++ t') : m = m' ∧ t = t' := by
  have heq : m = m' := by
    rcases List.prefix_or_prefix_of_prefix (List.prefix_append m t) (h ▸ List.prefix_append m' t')
      with hprefix | hprefix
    · exact eq_of_prefix_openings m hm m' hm' hprefix
    · exact (eq_of_prefix_openings m' hm' m hm hprefix).symm
  subst heq
  exact ⟨rfl, List.append_cancel_left h⟩

/-! ## Where a text ends -/

/-- A text, closed, holds its closing, a line break and one of the texts that may come next. -/
def CutShort (closing : Text) (nexts : List Text) (t : Text) : Prop :=
  ∃ m ∈ nexts, closing ++ '\n' :: m <:+: t ++ closing

instance (closing : Text) (nexts : List Text) (t : Text) : Decidable (CutShort closing nexts t) :=
  inferInstanceAs (Decidable (∃ m ∈ nexts, _))

section

variable {closing t t' r k k' : Text} {nexts : List Text}

/-- What comes behind a closed text and its line break. -/
def Follows (nexts : List Text) (k : Text) : Prop := k = [] ∨ ∃ m ∈ nexts, m <+: k

/-- A text that is not cut short does not go on behind a place where it could have ended. -/
theorem eq_nil_of_not_cutShort (hnexts : ∀ m ∈ nexts, '\n' ∉ m) (hk : Follows nexts k)
    (h : closing ++ '\n' :: k = r ++ (closing ++ '\n' :: k'))
    (ht : ¬ CutShort closing nexts (t ++ r)) : r = [] := by
  rcases hk with rfl | ⟨m, hm, k₁, rfl⟩
  · have hlength := congrArg List.length h
    simp only [List.length_append, List.length_cons, List.length_nil] at hlength
    exact List.eq_nil_of_length_eq_zero (by omega)
  · have hcut : ∀ s, r ++ closing ≠ closing ++ '\n' :: m ++ s := by
      intro s hs
      refine ht ⟨m, hm, t, s, ?_⟩
      rw [List.append_assoc t r, hs, List.append_assoc t]
    have hsplit : (closing ++ '\n' :: m) ++ k₁ = (r ++ closing) ++ '\n' :: k' := by
      rw [List.append_assoc, List.cons_append, h, List.append_assoc]
    rcases List.append_eq_append_iff.mp hsplit with ⟨s, hs, -⟩ | ⟨s, hs, hrest⟩
    · exact absurd hs (hcut s)
    · cases s with
      | nil => exact absurd (by rw [hs, List.append_nil, List.append_nil]) (hcut [])
      | cons c s =>
        -- the line break behind `r` and the closing would stand in `m`
        obtain rfl : '\n' = c := (List.cons.inj hrest).1
        by_contra hr
        have hle : closing.length + 1 ≤ (r ++ closing).length := by
          have := List.length_pos_iff.mpr hr
          rw [List.length_append]
          omega
        have hdrop : (closing ++ '\n' :: m).drop (closing.length + 1) = m := by simp
        rw [hs, List.drop_append_of_le_length hle] at hdrop
        exact hnexts m hm (hdrop ▸ List.mem_append_right _ List.mem_cons_self)

/-- Texts that are not cut short can be told from what comes behind them. -/
theorem closed_append_inj (hnexts : ∀ m ∈ nexts, '\n' ∉ m) (hk : Follows nexts k)
    (hk' : Follows nexts k') (ht : ¬ CutShort closing nexts t)
    (ht' : ¬ CutShort closing nexts t')
    (h : t ++ closing ++ '\n' :: k = t' ++ closing ++ '\n' :: k') : t = t' ∧ k = k' := by
  have hclosed : ∀ {k k'}, closing ++ '\n' :: k = closing ++ '\n' :: k' → k = k' := fun h =>
    (List.cons.inj (List.append_cancel_left h)).2
  rw [List.append_assoc, List.append_assoc] at h
  rcases List.append_eq_append_iff.mp h with ⟨r, rfl, hr⟩ | ⟨r, rfl, hr⟩
  · obtain rfl := eq_nil_of_not_cutShort hnexts hk hr ht'
    exact ⟨(List.append_nil t).symm, hclosed hr⟩
  · obtain rfl := eq_nil_of_not_cutShort hnexts hk' hr ht
    exact ⟨List.append_nil t', hclosed hr.symm⟩

end

/-! ## Calls told apart -/

/-- The same call, as far as its line or lines tell: a path is what is printed of it. -/
inductive Call.Alike : Call → Call → Prop
  | fieldChange (f : Field) (old new : Text) :
      Alike (.fieldChange f old new) (.fieldChange f old new)
  | unchanged {p q : FilePath} : display p = display q → Alike (.unchanged p) (.unchanged q)
  | updating {p q : FilePath} : display p = display q → Alike (.updating p) (.updating q)
  | failure {p q : FilePath} {message : Text} : display p = display q →
      Alike (.failure p message) (.failure q message)

theorem Call.Alike.texts_eq {f g : Field} {old new old' new' : Text}
    (h : (Call.fieldChange f old new).Alike (.fieldChange g old' new')) :
    old = old' ∧ new = new' := by
  cases h
  exact ⟨rfl, rfl⟩

/-- No text of the call is cut short. -/
def Call.Clear : Call → Prop
  | .fieldChange _ old new => ¬ CutShort ['"'] [newOpening] old ∧ ¬ CutShort ['"'] openings new
  | .unchanged p | .updating p => ¬ CutShort [] openings (display p)
  | .failure _ _ => True

instance (c : Call) : Decidable c.Clear :=
  match c with
  | .fieldChange _ _ _ => inferInstanceAs (Decidable (_ ∧ _))
  | .unchanged _ | .updating _ => inferInstanceAs (Decidable (¬ _))
  | .failure _ _ => inferInstanceAs (Decidable True)

theorem follows_flatMap_shown {cs : List Call} (h : ∀ c ∈ cs, c.ToldOut) :
    Follows openings (cs.flatMap Call.shown) := by
  cases cs with
  | nil => exact .inl rfl
  | cons c cs =>
    have hc := h c List.mem_cons_self
    refine .inr ⟨c.opening, mem_openings hc, ?_⟩
    rw [List.flatMap_cons, Call.shown_eq hc, List.append_assoc]
    exact List.prefix_append _ _

/-- A clear call can be told from what comes behind it. -/
theorem shown_append_inj {c c' : Call} {k k' : Text} (hc : c.ToldOut) (hc' : c'.ToldOut)
    (hclear : c.Clear) (hclear' : c'.Clear) (hk : Follows openings k) (hk' : Follows openings k')
    (h : c.shown ++ k = c'.shown ++ k') : c.Alike c' ∧ k = k' := by
  rw [Call.shown_eq hc, Call.shown_eq hc', List.append_assoc, List.append_assoc] at h
  obtain ⟨hopening, hbody⟩ := opening_append_inj (mem_openings hc) (mem_openings hc') h
  have hpath : ∀ {p q : FilePath}, ¬ CutShort [] openings (display p) →
      ¬ CutShort [] openings (display q) →
      display p ++ [] ++ ['\n'] ++ k = display q ++ [] ++ ['\n'] ++ k' →
      display p = display q ∧ k = k' := by
    intro p q hp hq heq
    rw [List.append_assoc _ ['\n'], List.append_assoc _ ['\n']] at heq
    exact closed_append_inj not_mem_of_mem_openings hk hk' hp hq heq
  -- calls of different kinds open differently
  cases c with
  | fieldChange f old new =>
    cases c' with
    | fieldChange f' old' new' =>
      obtain rfl := fieldOpening_inj hopening
      have hold : old ++ ['"'] ++ '\n' :: (newOpening ++ (new ++ ['"'] ++ '\n' :: k)) =
          old' ++ ['"'] ++ '\n' :: (newOpening ++ (new' ++ ['"'] ++ '\n' :: k')) := by
        simpa [Call.body] using hbody
      have hfollows : ∀ s, Follows [newOpening] (newOpening ++ s) := fun s =>
        .inr ⟨newOpening, List.mem_cons_self, List.prefix_append _ _⟩
      obtain ⟨rfl, hnew⟩ := closed_append_inj (List.forall_mem_singleton.mpr not_mem_newOpening)
        (hfollows _) (hfollows _) hclear.1 hclear'.1 hold
      obtain ⟨rfl, hrest⟩ := closed_append_inj not_mem_of_mem_openings hk hk' hclear.2 hclear'.2
        (List.append_cancel_left hnew)
      exact ⟨.fieldChange f old new, hrest⟩
    | unchanged q => exact absurd hopening (fieldOpening_ne f).1
    | updating q => exact absurd hopening (fieldOpening_ne f).2
    | failure q message => exact absurd hc' (not_toldOut_failure q message)
  | unchanged p =>
    cases c' with
    | fieldChange f old new => exact absurd hopening.symm (fieldOpening_ne f).1
    | unchanged q =>
      obtain ⟨hdisplay, hrest⟩ := hpath hclear hclear' hbody
      exact ⟨.unchanged hdisplay, hrest⟩
    | updating q => exact absurd hopening unchangedOpening_ne
    | failure q message => exact absurd hc' (not_toldOut_failure q message)
  | updating p =>
    cases c' with
    | fieldChange f old new => exact absurd hopening.symm (fieldOpening_ne f).2
    | unchanged q => exact absurd hopening.symm unchangedOpening_ne
    | updating q =>
      obtain ⟨hdisplay, hrest⟩ := hpath hclear hclear' hbody
      exact ⟨.updating hdisplay, hrest⟩
    | failure q message => exact absurd hc' (not_toldOut_failure q message)
  | failure p message => exact absurd hc (not_toldOut_failure p message)

theorem shown_ne_nil {c : Call} (h : c.ToldOut) : c.shown ≠ [] := by
  rw [Call.shown_eq h]
  exact List.append_ne_nil_of_left_ne_nil (ne_nil_of_mem_openings _ (mem_openings h)) _

/-- Clear calls are read back from what they write. -/
theorem alike_of_flatMap_shown_eq {cs cs' : List Call} (hcs : ∀ c ∈ cs, c.ToldOut ∧ c.Clear)
    (hcs' : ∀ c ∈ cs', c.ToldOut ∧ c.Clear) (h : cs.flatMap Call.shown = cs'.flatMap Call.shown) :
    List.Forall₂ Call.Alike cs cs' := by
  induction cs generalizing cs' with
  | nil =>
    cases cs' with
    | nil => exact .nil
    | cons c' cs' =>
      have hne := shown_ne_nil (hcs' c' List.mem_cons_self).1
      rw [List.flatMap_nil, List.flatMap_cons] at h
      exact absurd (List.append_eq_nil_iff.mp h.symm).1 hne
  | cons c cs ih =>
    obtain ⟨⟨hc, hclear⟩, hcs⟩ := List.forall_mem_cons.mp hcs
    cases cs' with
    | nil =>
      rw [List.flatMap_nil, List.flatMap_cons] at h
      exact absurd (List.append_eq_nil_iff.mp h).1 (shown_ne_nil hc)
    | cons c' cs' =>
      obtain ⟨⟨hc', hclear'⟩, hcs'⟩ := List.forall_mem_cons.mp hcs'
      rw [List.flatMap_cons, List.flatMap_cons] at h
      obtain ⟨halike, hrest⟩ := shown_append_inj hc hc' hclear hclear'
        (follows_flatMap_shown fun c hc => (hcs c hc).1)
        (follows_flatMap_shown fun c hc => (hcs' c hc).1) h
      exact .cons halike (ih hcs hcs' hrest)

/-! ## Calls that can be taken for others -/

/-- What stands behind an opening in a text may be the rest of another call. -/
theorem exists_shown_of_opening {m : Text} (hm : m ∈ openings) (t : Text) :
    ∃ rest rest' : List Call, (∀ c ∈ rest, c.ToldOut) ∧ (∀ c ∈ rest', c.ToldOut) ∧
      rest'.flatMap Call.shown = m ++ (t ++ '\n' :: rest.flatMap Call.shown) := by
  rcases List.mem_append.mp hm with hm | hm
  · obtain ⟨f, -, rfl⟩ := List.mem_map.mp hm
    refine ⟨[.fieldChange .title [] []], [.fieldChange f (t ++ '\n' :: fieldOpening .title) []],
      List.forall_mem_singleton.mpr (toldOut_fieldChange _ _ _),
      List.forall_mem_singleton.mpr (toldOut_fieldChange _ _ _), ?_⟩
    rw [List.flatMap_singleton, List.flatMap_singleton, shown_fieldChange, shown_fieldChange]
    simp
  · rcases List.mem_cons.mp hm with rfl | hm
    · refine ⟨[], [.unchanged (Utf8.encode t)], List.forall_mem_nil _,
        List.forall_mem_singleton.mpr (toldOut_unchanged _), ?_⟩
      rw [List.flatMap_singleton, shown_unchanged_encode, List.append_nil]
      rfl
    · obtain rfl := List.mem_singleton.mp hm
      refine ⟨[], [.updating (Utf8.encode t)], List.forall_mem_nil _,
        List.forall_mem_singleton.mpr (toldOut_updating _), ?_⟩
      rw [List.flatMap_singleton, shown_updating_encode, List.append_nil]
      rfl

/-- What stands before the place where a text is cut is another text. -/
theorem ne_of_cut {closing m s t u : Text} (h : s ++ (closing ++ '\n' :: m) ++ u = t ++ closing) :
    t ≠ s := by
  rintro rfl
  have hlength := congrArg List.length h
  simp only [List.length_append, List.length_cons] at hlength
  omega

/-- A call that ends in a text that is cut short can be taken for the call that ends there, if the
right calls come behind it. -/
theorem exists_taken_for_of_last {c d : Call} {front closing m s t u : Text} (hd : d.ToldOut)
    (hm : m ∈ openings) (hcut : s ++ (closing ++ '\n' :: m) ++ u = t ++ closing)
    (hcshown : c.shown = front ++ (t ++ closing ++ ['\n']))
    (hdshown : d.shown = front ++ (s ++ closing ++ ['\n'])) (hne : ¬ c.Alike d) :
    ∃ rest cs', (∀ d ∈ rest, d.ToldOut) ∧ (∀ d ∈ cs', d.ToldOut) ∧
      (c :: rest).flatMap Call.shown = cs'.flatMap Call.shown ∧
      ¬ List.Forall₂ Call.Alike (c :: rest) cs' := by
  obtain ⟨rest, rest', hrest, hrest', hshown⟩ := exists_shown_of_opening hm u
  refine ⟨rest, d :: rest', hrest, List.forall_mem_cons.mpr ⟨hd, hrest'⟩, ?_, fun h => ?_⟩
  · rw [List.flatMap_cons, List.flatMap_cons, hshown, hcshown, hdshown, ← hcut]
    simp
  · cases h with
    | cons halike _ => exact hne halike

/-- A call that is not clear can be taken for others, if the right calls come behind it. -/
theorem exists_taken_for {c : Call} (hc : c.ToldOut) (hclear : ¬ c.Clear) :
    ∃ rest cs', (∀ d ∈ rest, d.ToldOut) ∧ (∀ d ∈ cs', d.ToldOut) ∧
      (c :: rest).flatMap Call.shown = cs'.flatMap Call.shown ∧
      ¬ List.Forall₂ Call.Alike (c :: rest) cs' := by
  cases c with
  | fieldChange f old new =>
    rcases Decidable.not_and_iff_not_or_not.mp hclear with hold | hnew
    · obtain ⟨m, hm, s, u, hcut⟩ := Decidable.not_not.mp hold
      obtain rfl := List.mem_singleton.mp hm
      refine ⟨[], [.fieldChange f s (u ++ '\n' :: (newOpening ++ new))], List.forall_mem_nil _,
        List.forall_mem_singleton.mpr (toldOut_fieldChange _ _ _), ?_, fun h => ?_⟩
      · have hold : old ++ '"' :: '\n' :: newOpening =
            s ++ ['"'] ++ '\n' :: newOpening ++ (u ++ '\n' :: newOpening) := by
          rw [← List.singleton_append, ← List.append_assoc, ← hcut]
          simp
        rw [List.flatMap_singleton, List.flatMap_singleton, shown_fieldChange, shown_fieldChange,
          hold]
        simp
      · cases h with
        | cons halike _ => exact ne_of_cut hcut halike.texts_eq.1
    · obtain ⟨m, hm, s, u, hcut⟩ := Decidable.not_not.mp hnew
      refine exists_taken_for_of_last (toldOut_fieldChange f old s) hm hcut
        (shown_fieldChange f old new) (shown_fieldChange f old s) fun h => ?_
      exact ne_of_cut hcut h.texts_eq.2
  | unchanged p =>
    obtain ⟨m, hm, s, u, hcut⟩ := Decidable.not_not.mp hclear
    refine exists_taken_for_of_last (toldOut_unchanged (Utf8.encode s)) hm hcut (Call.shown_eq hc)
      (shown_unchanged_encode s) fun h => ?_
    cases h with
    | unchanged heq => exact ne_of_cut hcut (heq.trans (Utf8.decodeLossy_encode s))
  | updating p =>
    obtain ⟨m, hm, s, u, hcut⟩ := Decidable.not_not.mp hclear
    refine exists_taken_for_of_last (toldOut_updating (Utf8.encode s)) hm hcut (Call.shown_eq hc)
      (shown_updating_encode s) fun h => ?_
    cases h with
    | updating heq => exact ne_of_cut hcut (heq.trans (Utf8.decodeLossy_encode s))
  | failure p message => exact absurd hc (not_toldOut_failure p message)

/-! ## The output stream -/

/-- A working stream gets all texts. -/
theorem passed_working (s : Stream) (ws : List (Stream × Text)) (n : Nat) :
    passed (textsOn s ws) (fatesFrom Sink.working s n ws) = (textsOn s ws).flatten := by
  induction ws generalizing n with
  | nil => rfl
  | cons w ws ih =>
    by_cases hs : (w.1 == s) = true
    · have htexts : textsOn s (w :: ws) = w.2 :: textsOn s ws := by simp [textsOn, hs]
      rw [fatesFrom, if_pos hs, htexts, List.flatten_cons, ← ih (n + 1)]
      rfl
    · have htexts : textsOn s (w :: ws) = textsOn s ws := by simp [textsOn, hs]
      rw [fatesFrom, if_neg hs, htexts, ih]

/-- The output stream of a working, loud reporter gets what the calls show. -/
theorem out_deliver_working (cs : List Call) :
    (deliver false Sink.working cs).out = cs.flatMap Call.shown := by
  have hwrites : ∀ c : Call, c.writes false = c.lines := fun c => List.filter_eq_self.mpr (by simp)
  have hout := deliver_on false Sink.working cs .out
  rw [fates, passed_working] at hout
  have hshown : Call.shown = fun c => (textsOn .out c.lines).flatMap id :=
    funext fun c => List.flatten_eq_flatMap
  rw [hshown]
  refine hout.trans ?_
  simp only [textsOn, hwrites, List.filter_flatMap, List.map_flatMap, List.flatten_eq_flatMap,
    List.flatMap_assoc]

/-- Each change makes two lines, and one more for each line break in its texts. -/
theorem count_shown_fieldChange (f : Field) (old new : Text) :
    (Call.fieldChange f old new).shown.count '\n' = 2 + old.count '\n' + new.count '\n' := by
  have hfield : '\n' ∉ fieldOpening f :=
    not_mem_of_mem_openings _ (mem_openings (toldOut_fieldChange f old new))
  rw [shown_fieldChange]
  simp only [List.count_append, List.count_cons, List.count_nil,
    List.count_eq_zero_of_not_mem hfield, List.count_eq_zero_of_not_mem not_mem_newOpening]
  simp
  omega

/-- Two rows of clear calls that write the same to the output stream are alike, call by call. A call
that is not clear cannot be spared: with some calls behind it, it writes what quite other calls
write. And a change makes two lines and one more for each line break in its texts. -/
theorem clear_calls_are_legible :
    (∀ cs cs' : List Call, (∀ c ∈ cs, c.ToldOut ∧ c.Clear) → (∀ c ∈ cs', c.ToldOut ∧ c.Clear) →
      (deliver false Sink.working cs).out = (deliver false Sink.working cs').out →
      List.Forall₂ Call.Alike cs cs') ∧
    (∀ c : Call, c.ToldOut → ¬ c.Clear → ∃ rest cs',
      (∀ d ∈ rest, d.ToldOut) ∧ (∀ d ∈ cs', d.ToldOut) ∧
      (deliver false Sink.working (c :: rest)).out = (deliver false Sink.working cs').out ∧
      ¬ List.Forall₂ Call.Alike (c :: rest) cs') ∧
    ∀ f old new, (deliver false Sink.working [.fieldChange f old new]).out.count '\n' =
      2 + old.count '\n' + new.count '\n' := by
  simp only [out_deliver_working]
  refine ⟨fun cs cs' => alike_of_flatMap_shown_eq, fun c => exists_taken_for, fun f old new => ?_⟩
  rw [List.flatMap_singleton, count_shown_fieldChange]

/-- Line breaks and quotation marks in the texts of a change, and two paths that are printed alike.
The report tells all but which of the paths it was; and a text that holds the lines of another call
makes a report that cannot be read. -/
theorem clear_calls_are_legible_lossy :
    let change : Call := .fieldChange .title "a\"\nb".toList "\"\n : \"".toList
    let forged : Call := .fieldChange .title "a".toList "b\"\nUpdating tags in c".toList
    ([change, .unchanged [0xFF]] ≠ [change, .unchanged [0xEF, 0xBF, 0xBD]] ∧
      List.Forall₂ Call.Alike [change, .unchanged [0xFF]]
        [change, .unchanged [0xEF, 0xBF, 0xBD]]) ∧
      ∃ rest cs', (deliver false Sink.working (forged :: rest)).out =
        (deliver false Sink.working cs').out ∧ ¬ List.Forall₂ Call.Alike (forged :: rest) cs' := by
  intro change forged
  have hclear : ∀ c ∈ [change, .unchanged [0xFF]], c.ToldOut ∧ c.Clear := by decide +kernel
  have hclear' : ∀ c ∈ [change, .unchanged [0xEF, 0xBF, 0xBD]], c.ToldOut ∧ c.Clear := by
    decide +kernel
  have hforged : forged.ToldOut ∧ ¬ forged.Clear := by decide +kernel
  obtain ⟨rest, cs', -, -, hout, hne⟩ := clear_calls_are_legible.2.1 forged hforged.1 hforged.2
  refine ⟨⟨by decide, clear_calls_are_legible.1 _ _ hclear hclear' (by decide +kernel)⟩, rest, cs',
    hout, hne⟩

/-- A new text can hold the line of another call: what one change writes, in three lines, is also
what a change and an update write. -/
theorem text_forges_call :
    (¬ ∀ cs cs' : List Call, (∀ c ∈ cs, c.ToldOut) → (∀ c ∈ cs', c.ToldOut) →
      (deliver false Sink.working cs).out = (deliver false Sink.working cs').out →
      List.Forall₂ Call.Alike cs cs') ∧
    ¬ ∀ f old new, (deliver false Sink.working [.fieldChange f old new]).out.count '\n' = 2 := by
  refine ⟨fun h => ?_, fun h => ?_⟩
  · have halike := h [.fieldChange .title "One".toList "Two\"\nUpdating tags in b.mp3".toList]
      [.fieldChange .title "One".toList "Two".toList, .updating (Utf8.ofString "b.mp3\"")]
      (by decide) (by decide) (by decide +kernel)
    cases halike with
    | cons _ hrest => cases hrest
  · exact absurd (h .title "One".toList "Two\"\nUpdating tags in b.mp3".toList) (by decide +kernel)

end Report

end TagEdit
