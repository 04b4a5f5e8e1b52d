import TagEdit.Proofs.Regex.Spreading

/-!
# What a search finds

A search follows all runs of a program at once. At every place the threads stand in the order of
the places where they began, and every start that leads to acceptance is covered by a thread or by
what has been accepted, which began no later. So the match that is found is one of the leftmost.
-/

namespace TagEdit.Regex.Program

/-! ## Where threads began -/

/-- The place noted first, or one that is given if none has been noted. -/
def origin (pos : Nat) (saves : Saves) : Nat := saves.getLast?.elim pos (·.2)

theorem origin_cons (pos slot : Nat) (saves : Saves) :
    origin pos ((slot, pos) :: saves) = origin pos saves := by
  rcases saves with _ | ⟨s, saves⟩
  · rfl
  · simp [origin, List.getLast?_cons_cons]

theorem origin_eq_of_ne_nil {saves : Saves} (h : saves ≠ []) (x y : Nat) :
    origin x saves = origin y saves := by
  rw [origin, origin, List.getLast?_eq_some_getLast h]
  rfl

/-- A silent instruction notes the place where it stands or nothing. -/
theorem saves_of_mem_successors {k : Cursor} {saves : Saves} {i : Instr} {u : Thread}
    (hu : u ∈ successors k saves i) :
    u.saves = saves ∨ ∃ slot, u.saves = (slot, k.pos) :: saves := by
  cases i with
  | fork a b =>
    simp only [successors, List.mem_cons, List.not_mem_nil, or_false] at hu
    rcases hu with rfl | rfl <;> exact .inl rfl
  | save slot next => exact .inr ⟨slot, congrArg Thread.saves (List.mem_singleton.mp hu)⟩
  | look l next =>
    rw [successors] at hu
    split at hu
    · exact .inl (congrArg Thread.saves (List.mem_singleton.mp hu))
    · cases hu
  | _ => cases hu

theorem origin_successors {k : Cursor} {saves : Saves} {i : Instr} :
    ∀ u ∈ successors k saves i, origin k.pos u.saves = origin k.pos saves := by
  intro u hu
  rcases saves_of_mem_successors hu with h | ⟨slot, h⟩
  · rw [h]
  · rw [h, origin_cons]

theorem saves_ne_nil_of_mem_successors {k : Cursor} {saves : Saves} {i : Instr} {u : Thread}
    (hne : saves ≠ []) (hu : u ∈ successors k saves i) : u.saves ≠ [] := by
  rcases saves_of_mem_successors hu with h | ⟨slot, h⟩
  · rwa [h]
  · rw [h]
    exact List.cons_ne_nil _ _

/-! ## Runs and threads -/

section

variable {p : Program} {n pc : Nat} {a b : Spot}

/-- Every run gets to an instruction at rest at its first place. -/
theorem exists_settles_of_accepts (h : Accepts p.code n pc a b) :
    ∃ m last saves, Settles p a.1 pc last ∧ Accepts p.code m last (a.1, saves) b := by
  induction h with
  | accept hi => exact ⟨_, _, _, .rest hi rfl, .accept hi⟩
  | take hi hrest hc hacc => exact ⟨_, _, _, .rest hi rfl, .take hi hrest hc hacc⟩
  | silent hi ht _ ih =>
    obtain ⟨m, last, saves, hsettles, hacc⟩ := ih
    refine ⟨m, last, saves, .step hi ?_ hsettles, hacc⟩
    rw [← map_pc_successors]
    exact List.mem_map.mpr ⟨_, ht, rfl⟩

end

/-- A run of a program from a place of a text on. -/
def Starts (p : Program) (k : Cursor) (d : Nat) (b : Spot) : Prop :=
  ∃ n, Accepts p.code n p.start (k.advanceBy d, []) b

/-- From an instruction at a place, some run accepts. -/
def Lives (p : Program) (k : Cursor) (pc : Nat) : Prop :=
  ∃ n saves b, Accepts p.code n pc (k, saves) b

/-- All that a thread can accept is accepted from the place where it began. -/
def Begun (p : Program) (k : Cursor) (j : Nat) (t : Thread) : Prop :=
  ∃ d ≤ j, origin (k.pos + j) t.saves = k.pos + d ∧
    ∀ n b, Accepts p.code n t.pc (k.advanceBy j, t.saves) b → Starts p k d b

/-- Notes that have been accepted from the place where they began. -/
def Accepted (p : Program) (k : Cursor) (j : Nat) (saves : Saves) : Prop :=
  ∃ d ≤ j, origin 0 saves = k.pos + d ∧ ∃ b, Starts p k d b ∧ b.2 = saves

/-- Threads at a place, and what has been accepted before, stand for all runs from the places so
far. -/
structure Front (p : Program) (k : Cursor) (j : Nat) (found : Option Saves) (ts : List Thread) :
    Prop where
  inside : j ≤ k.rest.length
  begun : ∀ t ∈ ts, Begun p k j t
  sorted : ts.Pairwise fun t u => origin (k.pos + j) t.saves ≤ origin (k.pos + j) u.saves
  accepted : ∀ saves, found = some saves → Accepted p k j saves
  before : ∀ saves, found = some saves → ∀ t ∈ ts, origin (k.pos + j) t.saves ≤ origin 0 saves
  covered : ∀ e ≤ j, ∀ b, Starts p k e b →
    (∃ t ∈ ts, Lives p (k.advanceBy j) t.pc ∧ origin (k.pos + j) t.saves ≤ k.pos + e) ∨
      ∃ saves, found = some saves ∧ origin 0 saves ≤ k.pos + e

/-- Threads that wait for a character or accept, and have noted where they began. -/
def Waiting (p : Program) (ts : List Thread) : Prop :=
  ∀ t ∈ ts, t.saves ≠ [] ∧ ∃ i, p.code[t.pc]? = some i ∧ rests i = true

section

variable {p : Program} {k : Cursor} {j next : Nat} {found : Option Saves} {ts : List Thread}

theorem origin_step (h : j ≤ k.rest.length) (t : Thread) (i : Instr)
    (_ : p.code[t.pc]? = some i) : ∀ u ∈ successors (k.advanceBy j) t.saves i,
      origin (k.pos + j) u.saves = origin (k.pos + j) t.saves := by
  rw [← Cursor.pos_advanceBy h]
  exact origin_successors

theorem waiting_settle (hstart : p.code[p.start]? = some (.save 0 next))
    (hts : ∀ t ∈ ts, t.saves ≠ [] ∨ t.pc = p.start) : Waiting p (settle p k ts) := by
  intro t ht
  have hmarked : t.saves ≠ [] ∨ t.pc = p.start := by
    refine forall_settle (Q := fun t => t.saves ≠ [] ∨ t.pc = p.start) ?_ hts t ht
    intro t i ht hi u hu
    refine .inl ?_
    rcases ht with ht | ht
    · exact saves_ne_nil_of_mem_successors ht hu
    · rw [ht, hstart] at hi
      cases hi
      rw [List.mem_singleton.mp hu]
      exact List.cons_ne_nil _ _
  obtain ⟨i, hi, hrests⟩ := rests_settle t ht
  refine ⟨hmarked.resolve_right fun h => ?_, i, hi, hrests⟩
  rw [h, hstart] at hi
  cases hi
  cases hrests

/-- Following silent instructions keeps the front. -/
theorem Front.settle (h : Front p k j found ts) :
    Front p k j found (Program.settle p (k.advanceBy j) ts) where
  inside := h.inside
  begun := by
    refine forall_settle (fun t i ht hi u hu => ?_) h.begun
    obtain ⟨d, hd, horigin, hruns⟩ := ht
    exact ⟨d, hd, (origin_step h.inside t i hi u hu).trans horigin,
      fun n b hacc => hruns (n + 1) b (.silent hi hu hacc)⟩
  sorted := pairwise_settle (origin_step h.inside) h.sorted
  accepted := h.accepted
  before saves hsaves := forall_settle
    (fun t i ht hi u hu => origin_step h.inside t i hi u hu ▸ ht) (h.before saves hsaves)
  covered e he b hb := by
    refine (h.covered e he b hb).imp_left ?_
    rintro ⟨t, ht, ⟨n, saves, b, hacc⟩, hle⟩
    obtain ⟨m, last, saves, hsettles, hacc⟩ := exists_settles_of_accepts hacc
    obtain ⟨u, hu, rfl, hkey⟩ := mem_settle_le (origin_step h.inside) h.sorted ht hsettles
    exact ⟨u, hu, ⟨m, saves, b, hacc⟩, Nat.le_trans hkey hle⟩

theorem isAccept_iff {t : Thread} : p.isAccept t = true ↔ p.code[t.pc]? = some .accept := by
  unfold isAccept
  split <;> simp_all

/-- The first thread that accepts takes the place of those behind it and of what was accepted
before. -/
theorem Front.accept (h : Front p k j found ts) (hw : Waiting p ts) :
    Front p k j (run.accepted p found ts) (ts.takeWhile fun t => !p.isAccept t) := by
  rcases hfind : ts.find? p.isAccept with _ | u
  · have hnone : ∀ t ∈ ts, (!p.isAccept t) = true := by simpa using hfind
    have hkeep : ts.takeWhile (fun t => !p.isAccept t) = ts := by
      rw [← List.append_nil ts, List.takeWhile_append_of_pos hnone, List.takeWhile_nil]
    rwa [hkeep, run.accepted, hfind]
  · obtain ⟨hu, front, back, rfl, hfront⟩ := List.find?_eq_some_iff_append.mp hfind
    have hmem : u ∈ front ++ u :: back := by simp
    have hkeep : (front ++ u :: back).takeWhile (fun t => !p.isAccept t) = front := by
      rw [List.takeWhile_append_of_pos hfront, List.takeWhile_cons, hu]
      simp
    have horigin := origin_eq_of_ne_nil (hw u hmem).1 (k.pos + j) 0
    obtain ⟨hsorted, hback, hcross⟩ := List.pairwise_append.mp h.sorted
    rw [hkeep, run.accepted, hfind]
    refine ⟨h.inside, fun t ht => h.begun t (List.mem_append_left _ ht), hsorted, ?_, ?_, ?_⟩
    · rintro _ ⟨⟩
      obtain ⟨d, hd, hstarted, hruns⟩ := h.begun u hmem
      exact ⟨d, hd, horigin ▸ hstarted, _, hruns 0 _ (.accept (isAccept_iff.mp hu)), rfl⟩
    · rintro _ ⟨⟩ t ht
      exact horigin ▸ hcross t ht u List.mem_cons_self
    · intro e he b hb
      -- What stood behind the thread or had been accepted before began no earlier.
      have hbest : origin 0 u.saves ≤ k.pos + e ∨
          ∃ t ∈ front, Lives p (k.advanceBy j) t.pc ∧ origin (k.pos + j) t.saves ≤ k.pos + e := by
        rw [← horigin]
        rcases h.covered e he b hb with ⟨t, ht, hlives, hle⟩ | ⟨saves, hsaves, hle⟩
        · rcases List.mem_append.mp ht with ht | ht
          · exact .inr ⟨t, ht, hlives, hle⟩
          · rcases List.mem_cons.mp ht with rfl | ht
            · exact .inl hle
            · exact .inl (Nat.le_trans ((List.pairwise_cons.mp hback).1 t ht) hle)
        · exact .inl (Nat.le_trans (h.before saves hsaves u hmem) hle)
      exact hbest.symm.imp_right fun hle => ⟨u.saves, rfl, hle⟩

/-! ## Going on -/

theorem stepOver_eq_some_iff {c : Char} {t u : Thread} : p.stepOver c t = some u ↔
    ∃ s next, p.code[t.pc]? = some (.take s next) ∧ s.contains c = true ∧ u = ⟨next, t.saves⟩ := by
  unfold stepOver
  split
  · rename_i s next hi
    constructor
    · intro h
      obtain ⟨hc, rfl⟩ : s.contains c = true ∧ (⟨next, t.saves⟩ : Thread) = u := by simpa using h
      exact ⟨s, next, hi, hc, rfl⟩
    · rintro ⟨s', next', hi', hc, rfl⟩
      rw [hi] at hi'
      cases hi'
      rw [if_pos hc]
  · rename_i hi
    exact ⟨fun h => (Option.some_ne_none u h.symm).elim, fun ⟨s, next, h, _⟩ => (hi s next h).elim⟩

/-- A thread at rest that can accept does so here or is moved past the next character. -/
theorem isAccept_or_exists_stepOver {t : Thread}
    (hrests : ∃ i, p.code[t.pc]? = some i ∧ rests i = true) (h : Lives p k t.pc) :
    p.isAccept t = true ∨ ∃ c rest u, k.rest = c :: rest ∧ p.stepOver c t = some u ∧
      u.saves = t.saves ∧ Lives p k.advance u.pc := by
  obtain ⟨i, hi, hrests⟩ := hrests
  obtain ⟨n, saves, b, hacc⟩ := h
  rcases hacc.first hi with ⟨rfl, -⟩ | ⟨m, -, u, hu, -⟩ |
    ⟨s, next, m, _, rfl, -, ⟨c, rest, hrest, hc, rfl⟩, hacc⟩
  · exact .inl (isAccept_iff.mpr hi)
  · rw [successors_of_rests hrests] at hu
    cases hu
  · exact .inr ⟨c, rest, _, hrest, stepOver_eq_some_iff.mpr ⟨s, next, hi, hc, rfl⟩, rfl, _, _, _,
      hacc⟩

theorem lives_of_starts {d : Nat} {b : Spot} (h : Starts p k d b) :
    Lives p (k.advanceBy d) p.firstThread.pc :=
  h.imp fun _ hacc => ⟨[], b, hacc⟩

theorem advanceBy_succ_of_rest {c : Char} {rest : Text} (h : (k.advanceBy j).rest = c :: rest) :
    k.advanceBy (j + 1) = ⟨(k.advanceBy j).pos + 1, some c, rest⟩ := by
  rw [Cursor.advanceBy_add, Cursor.advanceBy_succ, Cursor.advanceBy_zero, Cursor.advance_of_cons h]

/-- A new thread, as long as nothing has been accepted. -/
theorem eq_firstThread_of_mem {t : Thread}
    (ht : t ∈ if found.isNone then [p.firstThread] else []) : t = p.firstThread := by
  split at ht
  · exact List.mem_singleton.mp ht
  · cases ht

/-- The threads at the next place: those that get past the character, and a new one as long as
nothing has been accepted. -/
theorem Front.move (h : Front p k j found ts) (hw : Waiting p ts)
    (haccept : ∀ t ∈ ts, p.isAccept t = false) {c : Char} {rest : Text}
    (hk : (k.advanceBy j).rest = c :: rest) :
    Front p k (j + 1) found
      (ts.filterMap (p.stepOver c) ++ if found.isNone then [p.firstThread] else []) := by
  have hnext : k.advanceBy (j + 1) = (k.advanceBy j).advance := by
    rw [advanceBy_succ_of_rest hk, Cursor.advance_of_cons hk]
  have hmoved : ∀ u ∈ ts.filterMap (p.stepOver c), ∃ t ∈ ts, p.stepOver c t = some u ∧
      origin (k.pos + (j + 1)) u.saves = origin (k.pos + j) t.saves := by
    intro u hu
    obtain ⟨t, ht, hstep⟩ := List.mem_filterMap.mp hu
    obtain ⟨_, _, -, -, rfl⟩ := stepOver_eq_some_iff.mp hstep
    exact ⟨t, ht, hstep, origin_eq_of_ne_nil (hw t ht).1 _ _⟩
  refine ⟨?inside, ?begun, ?sorted, ?accepted, ?before, ?covered⟩
  case inside =>
    have hrest := Cursor.rest_advanceBy j k
    rw [hk] at hrest
    have := congrArg List.length hrest
    rw [List.length_cons, List.length_drop] at this
    omega
  case begun =>
    intro u hu
    rcases List.mem_append.mp hu with hu | hu
    · obtain ⟨t, ht, hstep, horigin⟩ := hmoved u hu
      obtain ⟨d, hd, hstarted, hruns⟩ := h.begun t ht
      obtain ⟨s, next, hi, hc, rfl⟩ := stepOver_eq_some_iff.mp hstep
      refine ⟨d, Nat.le_succ_of_le hd, horigin.trans hstarted, fun n b hacc => ?_⟩
      exact hruns (n + 1) b (.take hi hk hc (hnext ▸ hacc))
    · obtain rfl := eq_firstThread_of_mem hu
      exact ⟨j + 1, Nat.le_refl _, rfl, fun n b hacc => ⟨n, hacc⟩⟩
  case sorted =>
    rw [List.pairwise_append]
    refine ⟨?_, ?_, ?_⟩
    · refine List.pairwise_filterMap.mpr (h.sorted.imp_of_mem ?_)
      intro t w ht hw' hle u hu v hv
      obtain ⟨_, _, -, -, rfl⟩ := stepOver_eq_some_iff.mp hu
      obtain ⟨_, _, -, -, rfl⟩ := stepOver_eq_some_iff.mp hv
      rwa [origin_eq_of_ne_nil (hw t ht).1 _ (k.pos + j),
        origin_eq_of_ne_nil (hw w hw').1 _ (k.pos + j)]
    · split <;> simp
    · intro u hu w hnew
      obtain ⟨t, ht, -, horigin⟩ := hmoved u hu
      obtain ⟨d, hd, hstarted, -⟩ := h.begun t ht
      rw [horigin, hstarted, eq_firstThread_of_mem hnew]
      exact Nat.add_le_add_left (Nat.le_succ_of_le hd) _
  case accepted =>
    intro saves hsaves
    obtain ⟨d, hd, hrest⟩ := h.accepted saves hsaves
    exact ⟨d, Nat.le_succ_of_le hd, hrest⟩
  case before =>
    intro saves hsaves u hu
    rw [hsaves, Option.isNone_some, if_neg Bool.false_ne_true, List.append_nil] at hu
    obtain ⟨t, ht, -, horigin⟩ := hmoved u hu
    rw [horigin]
    exact h.before saves hsaves t ht
  case covered =>
    intro e he b hb
    rcases Nat.le_succ_iff.mp he with he | rfl
    -- A run from a place before goes on with the thread that stands for it.
    · refine (h.covered e he b hb).imp_left ?_
      rintro ⟨t, ht, hlives, hle⟩
      obtain ⟨_, _, u, hrest, hstep, hsaves, hlives⟩ :=
        (isAccept_or_exists_stepOver (hw t ht).2 hlives).resolve_left (by simp [haccept t ht])
      cases hk.symm.trans hrest
      refine ⟨u, List.mem_append_left _ (List.mem_filterMap.mpr ⟨t, ht, hstep⟩), hnext ▸ hlives, ?_⟩
      rw [hsaves, origin_eq_of_ne_nil (hw t ht).1 _ (k.pos + j)]
      exact hle
    -- A run from the new place has a thread of its own, unless something has been accepted.
    · rcases hfound : found with _ | saves
      · exact .inl ⟨p.firstThread, by simp, lives_of_starts hb, Nat.le_refl _⟩
      · obtain ⟨d, hd, horigin, -⟩ := h.accepted saves hfound
        exact .inr ⟨saves, rfl, by omega⟩

/-! ## The whole search -/

/-- What has been found is one of the leftmost, and nothing is found only if there is nothing. -/
structure Leftmost (p : Program) (k : Cursor) (found : Option Saves) : Prop where
  some : ∀ saves, found = some saves → ∃ d ≤ k.rest.length, (∃ b, Starts p k d b ∧ b.2 = saves) ∧
    ∀ e ≤ k.rest.length, ∀ b, Starts p k e b → d ≤ e
  none : found = none → ∀ e ≤ k.rest.length, ∀ b, ¬ Starts p k e b

/-- A front that nothing can come of any more. -/
theorem Front.leftmost (h : Front p k j found ts)
    (hts : ∀ t ∈ ts, ¬ Lives p (k.advanceBy j) t.pc) (hend : j = k.rest.length ∨ found ≠ none) :
    Leftmost p k found where
  some saves hsaves := by
    obtain ⟨d, hd, horigin, hb⟩ := h.accepted saves hsaves
    refine ⟨d, Nat.le_trans hd h.inside, hb, fun e _ b hb => ?_⟩
    rcases Nat.lt_or_ge j e with hj | he
    · omega
    · rcases h.covered e he b hb with ⟨t, ht, hlives, -⟩ | ⟨saves', hsaves', hle⟩
      · exact absurd hlives (hts t ht)
      · obtain rfl : saves = saves' := Option.some.inj (hsaves.symm.trans hsaves')
        omega
  none hnone e he b hb := by
    obtain rfl := hend.resolve_right (not_not_intro hnone)
    rcases h.covered e he b hb with ⟨t, ht, hlives, -⟩ | ⟨saves, hsaves, -⟩
    · exact hts t ht hlives
    · rw [hnone] at hsaves
      cases hsaves

theorem mem_of_mem_alive {t : Thread} (ht : t ∈ ts.takeWhile fun t => !p.isAccept t) :
    t ∈ ts ∧ p.isAccept t = false := by
  have hall := List.all_eq_true.mp (List.all_takeWhile (p := fun t => !p.isAccept t) (l := ts)) t ht
  exact ⟨(List.takeWhile_sublist _).subset ht, by simpa using hall⟩

theorem leftmost_run (hstart : p.code[p.start]? = some (.save 0 next)) {text : Text}
    (h : Front p k j found ts) (hw : Waiting p ts) (hk : (k.advanceBy j).rest = text) :
    Leftmost p k (p.run (k.pos + j) found ts text) := by
  induction text generalizing j found ts with
  | nil =>
    rw [run]
    refine (h.accept hw).leftmost (fun t ht hlives => ?_) (.inl ?_)
    · obtain ⟨hmem, haccept⟩ := mem_of_mem_alive ht
      rcases isAccept_or_exists_stepOver (hw t hmem).2 hlives with h | ⟨c, rest, u, hrest, -⟩
      · rw [haccept] at h
        cases h
      · cases hk.symm.trans hrest
    · rw [Cursor.rest_advanceBy] at hk
      exact Nat.le_antisymm h.inside (List.drop_eq_nil_iff.mp hk)
  | cons c rest ih =>
    rw [run]
    split
    · rename_i hdone
      obtain ⟨halive, hsome⟩ := (Bool.and_eq_true _ _).mp hdone
      refine (h.accept hw).leftmost (fun t ht => ?_) (.inr fun hnone => ?_)
      · rw [List.isEmpty_iff.mp halive] at ht
        cases ht
      · rw [hnone] at hsome
        cases hsome
    · have hplace := advanceBy_succ_of_rest hk
      rw [Cursor.pos_advanceBy h.inside] at hplace
      have hmoved := ((h.accept hw).move (fun t ht => hw t (mem_of_mem_alive ht).1)
        (fun t ht => (mem_of_mem_alive ht).2) hk).settle
      rw [hplace] at hmoved
      refine ih hmoved (waiting_settle hstart fun u hu => ?_) (by rw [hplace])
      rcases List.mem_append.mp hu with hu | hu
      · obtain ⟨t, ht, hstep⟩ := List.mem_filterMap.mp hu
        obtain ⟨_, _, -, -, rfl⟩ := stepOver_eq_some_iff.mp hstep
        exact .inl (hw t (mem_of_mem_alive ht).1).1
      · exact .inr (eq_firstThread_of_mem hu ▸ rfl)

theorem front_start : Front p k 0 none [p.firstThread] where
  inside := Nat.zero_le _
  begun t ht := by
    obtain rfl := List.mem_singleton.mp ht
    exact ⟨0, Nat.le_refl 0, rfl, fun n b h => ⟨n, h⟩⟩
  sorted := List.pairwise_singleton _ _
  accepted _ h := by cases h
  before _ h := by cases h
  covered e he b hb := by
    obtain rfl := Nat.le_zero.mp he
    exact .inl ⟨p.firstThread, List.mem_cons_self, lives_of_starts hb, Nat.le_refl _⟩

/-- The search of a program that first notes its place finds one of the leftmost runs. -/
theorem leftmost_search (hstart : p.code[p.start]? = some (.save 0 next)) :
    Leftmost p k (p.search k) :=
  leftmost_run hstart front_start.settle (waiting_settle hstart (by simp [firstThread])) rfl

end

end TagEdit.Regex.Program
