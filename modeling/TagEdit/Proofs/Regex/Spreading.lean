import TagEdit.Proofs.Regex.Compiling

/-!
# Following silent instructions

What `spread` finds: every instruction at rest that can be reached, in order of preference, with
what has been noted on the way.
-/

namespace TagEdit.Regex.Program

/-! ## Following silent instructions -/

/-- The instructions that one instruction leads to without taking up a character. -/
def targets (k : Cursor) (i : Instr) : List Nat := (successors k [] i).map Thread.pc

theorem map_pc_successors (k : Cursor) (saves : Saves) (i : Instr) :
    (successors k saves i).map Thread.pc = targets k i := by
  cases i with
  | look l next =>
    simp only [targets, successors]
    split <;> rfl
  | _ => rfl

theorem successors_of_rests {i : Instr} (h : rests i = true) (k : Cursor) (saves : Saves) :
    successors k saves i = [] := by
  cases i with
  | take => rfl
  | accept => rfl
  | _ => cases h

/-- An instruction leads to one at rest without taking up a character. -/
inductive Settles (p : Program) (k : Cursor) : Nat → Nat → Prop where
  | rest {pc : Nat} {i : Instr} : p.code[pc]? = some i → rests i = true → Settles p k pc pc
  | step {pc next last : Nat} {i : Instr} : p.code[pc]? = some i → next ∈ targets k i →
      Settles p k next last → Settles p k pc last

section

variable {p : Program} {k : Cursor} {found ts us : List Thread} {fresh : Nat} {seen : Visited}

-- The cases of `spread`: no thread is left, no instruction is left to visit, the first thread is at
-- a visited instruction, at none, or at a new one.
theorem prefix_spread : found.reverse <+: spread p k found fresh ts seen := by
  fun_induction spread p k found fresh ts seen with
  | case1 => exact List.prefix_refl _
  | case2 => exact List.prefix_refl _
  | case3 _ _ _ _ _ _ ih => exact ih
  | case4 _ _ _ _ _ _ _ ih => exact ih
  | case5 found _ t _ _ _ _ _ ih =>
    refine List.IsPrefix.trans ?_ ih
    split
    · rw [List.reverse_cons]
      exact List.prefix_append ..
    · exact List.prefix_refl _

/-- Threads behind others add nothing in front of what those lead to. -/
theorem spread_prefix_append :
    spread p k found fresh ts seen <+: spread p k found fresh (ts ++ us) seen := by
  fun_induction spread p k found fresh ts seen with
  | case1 => exact prefix_spread
  | case2 => exact prefix_spread
  | case3 _ _ _ _ _ hseen ih =>
    rw [List.cons_append, spread, if_pos hseen]
    exact ih
  | case4 _ _ _ _ _ hseen hcode ih =>
    rw [List.cons_append, spread, if_neg hseen, hcode]
    exact ih
  | case5 _ _ _ _ _ hseen _ hcode ih =>
    rw [List.cons_append, spread, if_neg hseen, hcode]
    rw [List.append_assoc] at ih
    exact ih

/-- What silent instructions keep holds of all threads that are found. -/
theorem forall_spread {Q : Thread → Prop}
    (hstep : ∀ t i, Q t → p.code[t.pc]? = some i → ∀ u ∈ successors k t.saves i, Q u)
    (hfound : ∀ t ∈ found, Q t) (hts : ∀ t ∈ ts, Q t) :
    ∀ t ∈ spread p k found fresh ts seen, Q t := by
  fun_induction spread p k found fresh ts seen with
  | case1 => simpa using hfound
  | case2 => simpa using hfound
  | case3 _ _ _ _ _ _ ih => exact ih hfound fun u hu => hts u (List.mem_cons_of_mem _ hu)
  | case4 _ _ _ _ _ _ _ ih => exact ih hfound fun u hu => hts u (List.mem_cons_of_mem _ hu)
  | case5 found _ t ts _ _ i hcode ih =>
    have ht := hts t List.mem_cons_self
    refine ih ?_ ?_
    · split
      · exact List.forall_mem_cons.mpr ⟨ht, hfound⟩
      · exact hfound
    · exact List.forall_mem_append.mpr
        ⟨hstep t i ht hcode, fun u hu => hts u (List.mem_cons_of_mem _ hu)⟩

/-- Every thread that is found is at rest. -/
theorem rests_spread (hfound : ∀ t ∈ found, ∃ i, p.code[t.pc]? = some i ∧ rests i = true) :
    ∀ t ∈ spread p k found fresh ts seen, ∃ i, p.code[t.pc]? = some i ∧ rests i = true := by
  fun_induction spread p k found fresh ts seen with
  | case1 => simpa using hfound
  | case2 => simpa using hfound
  | case3 _ _ _ _ _ _ ih => exact ih hfound
  | case4 _ _ _ _ _ _ _ ih => exact ih hfound
  | case5 found _ t ts _ _ i hcode ih =>
    refine ih ?_
    split
    · rename_i hrests
      exact List.forall_mem_cons.mpr ⟨⟨i, hcode, hrests⟩, hfound⟩
    · exact hfound

/-- Threads are found in the order of a key that silent instructions keep. -/
theorem pairwise_spread {key : Thread → Nat}
    (hstep : ∀ t i, p.code[t.pc]? = some i → ∀ u ∈ successors k t.saves i, key u = key t)
    (h : (found.reverse ++ ts).Pairwise fun t u => key t ≤ key u) :
    (spread p k found fresh ts seen).Pairwise fun t u => key t ≤ key u := by
  fun_induction spread p k found fresh ts seen with
  | case1 => simpa using h
  | case2 => exact (List.pairwise_append.mp h).1
  | case3 _ _ _ _ _ _ ih => exact ih (h.sublist (by simp))
  | case4 _ _ _ _ _ _ _ ih => exact ih (h.sublist (by simp))
  | case5 found _ t ts _ _ i hcode ih =>
    refine ih ?_
    split
    -- A thread at rest moves from the front of the list to the end of what has been found.
    · rename_i hrests
      rw [successors_of_rests hrests]
      simpa using h
    · rw [List.pairwise_append, List.pairwise_cons] at h
      obtain ⟨hfound, ⟨ht, hts⟩, hle⟩ := h
      have hkey := hstep t i hcode
      rw [List.pairwise_append, List.pairwise_append]
      refine ⟨hfound, ⟨?_, hts, fun u hu w hw => hkey u hu ▸ ht w hw⟩, fun u hu w hw => ?_⟩
      · exact List.pairwise_of_forall_mem_list fun u hu w hw =>
          Nat.le_of_eq ((hkey u hu).trans (hkey w hw).symm)
      · rcases List.mem_append.mp hw with hw | hw
        · rw [hkey w hw]
          exact hle u hu t List.mem_cons_self
        · exact hle u hu w (List.mem_cons_of_mem _ hw)

/-- An instruction has been visited or will be, or does not exist. -/
def Known (p : Program) (seen : Visited) (ts : List Thread) (pc : Nat) : Prop :=
  seen.getD pc false = true ∨ (∃ t ∈ ts, t.pc = pc) ∨ p.code[pc]? = none

/-- What a visited instruction leads to is known, and those at rest have been found. -/
structure Visiting (p : Program) (k : Cursor) (found ts : List Thread) (seen : Visited) : Prop where
  size : seen.size = p.code.size
  targets : ∀ {pc i q}, seen.getD pc false = true → p.code[pc]? = some i → q ∈ targets k i →
    Known p seen ts q
  rests : ∀ {pc i}, seen.getD pc false = true → p.code[pc]? = some i → rests i = true →
    ∃ t ∈ found, t.pc = pc

theorem getD_mark {pc : Nat} (h : pc < seen.size) (q : Nat) :
    (seen.setIfInBounds pc true).getD q false = (decide (pc = q) || seen.getD q false) := by
  simp only [Array.getD_eq_getD_getElem?, Array.getElem?_setIfInBounds]
  grind

theorem count_mark {pc : Nat} (h : pc < seen.size) (hseen : ¬ seen.getD pc false = true) :
    (seen.setIfInBounds pc true).toList.count false + 1 = seen.toList.count false := by
  have hfalse : seen[pc] = false := by simpa [h] using hseen
  have hpos : 0 < seen.toList.count false :=
    List.count_pos_iff.mpr (hfalse ▸ Array.mem_toList_iff.mpr (Array.getElem_mem h))
  rw [Array.toList_setIfInBounds, List.count_set (by simpa using h)]
  simp only [Array.getElem_toList, hfalse]
  simp only [beq_self_eq_true, if_true, show (true == false) = false from rfl]
  exact Nat.sub_add_cancel hpos

theorem seen_of_count_eq_zero (h : seen.toList.count false = 0) {pc : Nat} (hpc : pc < seen.size) :
    seen.getD pc false = true := by
  have hmem : seen[pc] ∈ seen.toList := Array.mem_toList_iff.mpr (Array.getElem_mem hpc)
  have hne : seen[pc] ≠ false := fun hfalse => List.count_eq_zero.mp h (hfalse ▸ hmem)
  simpa [hpc] using hne

/-- A thread that leads nowhere new is dropped. -/
theorem Known.tail {t : Thread} (ht : seen.getD t.pc false = true ∨ p.code[t.pc]? = none) {pc : Nat}
    (h : Known p seen (t :: ts) pc) : Known p seen ts pc := by
  rcases h with h | ⟨u, hu, rfl⟩ | h
  · exact .inl h
  · rcases List.mem_cons.mp hu with rfl | hu
    · exact ht.imp_right .inr
    · exact .inr (.inl ⟨u, hu, rfl⟩)
  · exact .inr (.inr h)

/-- A thread is replaced by what its instruction leads to. -/
theorem Known.mark {t : Thread} (ht : t.pc < seen.size) {pc : Nat} (h : Known p seen (t :: ts) pc) :
    Known p (seen.setIfInBounds t.pc true) (us ++ ts) pc := by
  rcases h with h | ⟨u, hu, rfl⟩ | h
  · exact .inl (by rw [getD_mark ht, h, Bool.or_true])
  · rcases List.mem_cons.mp hu with rfl | hu
    · exact .inl (by rw [getD_mark ht, decide_eq_true rfl, Bool.true_or])
    · exact .inr (.inl ⟨u, List.mem_append_right _ hu, rfl⟩)
  · exact .inr (.inr h)

theorem Visiting.tail {t : Thread} (h : Visiting p k found (t :: ts) seen)
    (ht : seen.getD t.pc false = true ∨ p.code[t.pc]? = none) : Visiting p k found ts seen :=
  ⟨h.size, fun hpc hi hq => (h.targets hpc hi hq).tail ht, h.rests⟩

theorem Visiting.mark {t : Thread} {i : Instr} (h : Visiting p k found (t :: ts) seen)
    (hi : p.code[t.pc]? = some i) :
    Visiting p k (if Program.rests i then t :: found else found) (successors k t.saves i ++ ts)
      (seen.setIfInBounds t.pc true) := by
  have ht : t.pc < seen.size := h.size ▸ (Array.getElem?_eq_some_iff.mp hi).1
  refine ⟨by rw [Array.size_setIfInBounds, h.size], ?_, ?_⟩
  · intro pc j q hpc hj hq
    rw [getD_mark ht, Bool.or_eq_true, decide_eq_true_eq] at hpc
    rcases hpc with rfl | hpc
    · obtain rfl : i = j := Option.some.inj (hi.symm.trans hj)
      rw [← map_pc_successors k t.saves] at hq
      obtain ⟨u, hu, rfl⟩ := List.mem_map.mp hq
      exact .inr (.inl ⟨u, List.mem_append_left _ hu, rfl⟩)
    · exact (h.targets hpc hj hq).mark ht
  · intro pc j hpc hj hrests
    rw [getD_mark ht, Bool.or_eq_true, decide_eq_true_eq] at hpc
    rcases hpc with rfl | hpc
    · obtain rfl : i = j := Option.some.inj (hi.symm.trans hj)
      exact ⟨t, by rw [if_pos hrests]; exact List.mem_cons_self, rfl⟩
    · obtain ⟨u, hu, rfl⟩ := h.rests hpc hj hrests
      refine ⟨u, ?_, rfl⟩
      split
      · exact List.mem_cons_of_mem _ hu
      · exact hu

/-- With nothing new left to visit, all that can be reached has been found. -/
theorem Visiting.mem_found (h : Visiting p k found ts seen)
    (hts : ∀ t ∈ ts, seen.getD t.pc false = true ∨ p.code[t.pc]? = none) {pc last : Nat}
    (hpc : Known p seen ts pc) (hsettles : Settles p k pc last) : ∃ t ∈ found, t.pc = last := by
  have hseen : ∀ {q i}, p.code[q]? = some i → Known p seen ts q → seen.getD q false = true := by
    rintro q i hi (h | ⟨t, ht, rfl⟩ | h)
    · exact h
    · exact (hts t ht).resolve_right (by rw [hi]; exact Option.some_ne_none i)
    · rw [hi] at h
      cases h
  induction hsettles with
  | rest hi hrests => exact h.rests (hseen hi hpc) hi hrests
  | step hi hq _ ih => exact ih (h.targets (hseen hi hpc) hi hq)

/-- All that can be reached is found, as every instruction may be visited once. -/
theorem Visiting.mem_spread (h : Visiting p k found ts seen)
    (hfresh : seen.toList.count false ≤ fresh) {pc last : Nat} (hpc : Known p seen ts pc)
    (hsettles : Settles p k pc last) : ∃ t ∈ spread p k found fresh ts seen, t.pc = last := by
  fun_induction spread p k found fresh ts seen with
  | case1 => simpa using h.mem_found (by simp) hpc hsettles
  | case2 found t seen ts =>
    have hall : ∀ q, seen.getD q false = true ∨ p.code[q]? = none := fun q => by
      rcases Nat.lt_or_ge q seen.size with hq | hq
      · exact .inl (seen_of_count_eq_zero (Nat.le_zero.mp hfresh) hq)
      · exact .inr (Array.getElem?_eq_none (h.size ▸ hq))
    simpa using h.mem_found (fun t _ => hall t.pc) hpc hsettles
  | case3 _ _ _ _ _ hseen ih => exact ih (h.tail (.inl hseen)) hfresh (hpc.tail (.inl hseen))
  | case4 _ _ _ _ _ _ hnone ih => exact ih (h.tail (.inr hnone)) hfresh (hpc.tail (.inr hnone))
  | case5 _ _ t _ _ hseen _ hcode ih =>
    have ht : t.pc < _ := h.size ▸ (Array.getElem?_eq_some_iff.mp hcode).1
    refine ih (h.mark hcode) ?_ (hpc.mark ht)
    have := count_mark ht hseen
    omega

end

/-! ## At one place -/

section

variable {p : Program} {k : Cursor} {ts : List Thread}

theorem forall_settle {Q : Thread → Prop}
    (hstep : ∀ t i, Q t → p.code[t.pc]? = some i → ∀ u ∈ successors k t.saves i, Q u)
    (hts : ∀ t ∈ ts, Q t) : ∀ t ∈ settle p k ts, Q t := forall_spread hstep (by simp) hts

theorem rests_settle : ∀ t ∈ settle p k ts, ∃ i, p.code[t.pc]? = some i ∧ rests i = true :=
  rests_spread (by simp)

theorem pairwise_settle {key : Thread → Nat}
    (hstep : ∀ t i, p.code[t.pc]? = some i → ∀ u ∈ successors k t.saves i, key u = key t)
    (hts : ts.Pairwise fun t u => key t ≤ key u) :
    (settle p k ts).Pairwise fun t u => key t ≤ key u := pairwise_spread hstep (by simpa using hts)

theorem mem_settle {t : Thread} (ht : t ∈ ts) {last : Nat} (h : Settles p k t.pc last) :
    ∃ u ∈ settle p k ts, u.pc = last := by
  have hunseen : ∀ pc, ¬ (Array.replicate p.code.size false).getD pc false = true := fun pc => by
    rw [Array.getD_eq_getD_getElem?, Array.getElem?_replicate]
    split <;> simp
  have hvisiting : Visiting p k [] ts (Array.replicate p.code.size false) :=
    ⟨Array.size_replicate, fun hpc => absurd hpc (hunseen _), fun hpc => absurd hpc (hunseen _)⟩
  exact hvisiting.mem_spread (by simp) (.inr (.inl ⟨t, ht, rfl⟩)) h

/-- What a thread leads to is found with a key that is no greater, where threads are in the order of
their keys. -/
theorem mem_settle_le {key : Thread → Nat}
    (hstep : ∀ t i, p.code[t.pc]? = some i → ∀ u ∈ successors k t.saves i, key u = key t)
    (hts : ts.Pairwise fun t u => key t ≤ key u) {t : Thread} (ht : t ∈ ts) {last : Nat}
    (h : Settles p k t.pc last) : ∃ u ∈ settle p k ts, u.pc = last ∧ key u ≤ key t := by
  obtain ⟨front, back, rfl⟩ := List.append_of_mem ht
  have hmem : t ∈ front ++ [t] := by simp
  obtain ⟨u, hu, rfl⟩ := mem_settle hmem h
  have hkey : ∀ w ∈ settle p k (front ++ [t]), key w ≤ key t := by
    refine forall_settle (fun w i hw hi v hv => hstep w i hi v hv ▸ hw) fun w hw => ?_
    rcases List.mem_append.mp hw with hw | hw
    · exact (List.pairwise_append.mp hts).2.2 w hw t List.mem_cons_self
    · exact Nat.le_of_eq (congrArg key (List.mem_singleton.mp hw))
  have hsub : settle p k (front ++ [t]) <+: settle p k (front ++ t :: back) := by
    rw [List.append_cons front t back]
    exact spread_prefix_append
  exact ⟨u, hsub.subset hu, rfl, hkey u hu⟩

end

end TagEdit.Regex.Program
