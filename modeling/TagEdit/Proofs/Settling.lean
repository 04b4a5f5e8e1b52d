import TagEdit.Proofs.Accounting
import TagEdit.Proofs.Independence

/-!
# A second run

A real run leaves of every track what the editors make of it, or leaves it alone if it cannot be
opened or saved. Which paths fail is therefore the same each time. Where the editors have nothing
left to do after themselves, a run on the same paths again only reads. A path may come twice and a
track under several names; since scripts see the name, an editor has to be done with a track
whichever of the names it has seen.
-/

namespace TagEdit

open TagEdit.Path

/-! ## Editors that are done after one run -/

section

variable (editors : EditorSet) (s : TrackStore) (paths : List FilePath)

/-- What the editor of a field of a track makes of a text, under a path to the track. -/
def edited (path : FilePath) (t : Track) (f : Field) (value : Text) : Text :=
  (editors.get f).apply (Context.ofFile (display path) t.duration) value

/-- Every editor leaves its own results alone, on each track that is opened. -/
def Idempotent : Prop :=
  ∀ p ∈ paths, ∀ t, TrackStore.openTrack p s = .ok t → ∀ f value,
    edited editors p t f (edited editors p t f value) = edited editors p t f value

/-- Under a path every editor leaves its results alone, be they from that path or from another of
the paths to the track. -/
def Settles (path : FilePath) : Prop :=
  ∀ t, TrackStore.openTrack path s = .ok t →
    ∀ q ∈ paths, TrackStore.openTrack q s = .ok t → ∀ f value,
      edited editors path t f (edited editors q t f value) = edited editors q t f value

/-- No edit changes the track that a path leads to, if that track can be saved at all. -/
def Settled (path : FilePath) : Prop :=
  ∀ t, TrackStore.openTrack path s = .ok t → t.saveError = none →
    ∀ f, newText editors path t f = t.get f

end

section

variable {editors : EditorSet} {o : RunOptions} {s w w' : TrackStore} {p q : FilePath}
  {paths : List FilePath} {t : Track}

theorem TrackStore.openTrack_same (h : same p q = true) (s : TrackStore) :
    openTrack p s = openTrack q s := by
  unfold openTrack
  rw [find?_congr h]

/-- For a track with one name, idempotent editors are enough. -/
theorem Idempotent.settles (h : Idempotent editors s paths) (hp : p ∈ paths)
    (hname : ∀ q ∈ paths, same q p = true → display q = display p) :
    Settles editors s paths p := by
  intro t hopen q hq hopen' f value
  have hsame : same q p = true :=
    TrackStore.same_of_found (find?_of_openTrack hopen') (find?_of_openTrack hopen)
  have hedited : edited editors q t f = edited editors p t f := by
    unfold edited
    rw [hname q hq hsame]
  rw [hedited]
  exact h p hp t hopen f value

/-! ## What a turn leaves -/

/-- A path fails if its track cannot be opened, or has something to save and cannot be saved. -/
theorem outcome_eq_error_iff {e : TagError} :
    (processFile TrackStore.backend editors o s p).outcome = .error e ↔
      TrackStore.openTrack p s = .error e ∨
        ∃ t, TrackStore.openTrack p s = .ok t ∧ ¬ Idle editors o p t ∧ t.saveError = some e := by
  rcases hopen : TrackStore.openTrack p s with e' | t
  · simp [processFile_of_error hopen]
  rw [processFile_of_ok hopen]
  by_cases hidle : Idle editors o p t
  · rcases (finish_of_idle hidle s).2 with ⟨houtcome, -⟩ | ⟨houtcome, -⟩ <;>
      simp [houtcome, hidle]
  · have hfinish := finish_of_not_idle hidle s
    rcases he : t.saveError with _ | e' <;> simp only [he] at hfinish <;>
      simp [hfinish.1, hidle, he]

variable (editors) in
/-- A real run leaves of a track that can be saved what the editors make of its texts. -/
theorem exists_edited (hdry : o.dryRun = false) (hopen : TrackStore.openTrack q s = .ok t)
    (hsave : t.saveError = none) :
    ∃ u, TrackStore.openTrack q (processFile TrackStore.backend editors o s q).world = .ok u ∧
      u.duration = t.duration ∧ u.saveError = none ∧ ∀ f, u.get f = newText editors q t f := by
  have hfind := find?_of_openTrack hopen
  have hopens := openError_of_openTrack hopen
  by_cases hidle : Idle editors o q t
  · refine ⟨t, ?_, rfl, hsave, fun f => ?_⟩
    · rw [processFile_of_ok hopen, (finish_of_idle hidle s).1]
      exact hopen
    · obtain ⟨hsame, -⟩ := hidle.resolve_left (by simp [hdry])
      exact (hsame f).symm
  · refine ⟨saved editors o q t, ?_, rfl, hsave, (edited_saved hdry).get⟩
    rw [world_of_stores hfind ⟨hopens, hsave, hidle⟩]
    exact openTrack_of_find? (TrackStore.find?_put hfind saved_path) hopens

/-- What a real run leaves of a path: it can be opened as before, and a track that cannot be saved
is as it was. -/
structure Kept (s w : TrackStore) (path : FilePath) : Prop where
  refused : ∀ e, TrackStore.openTrack path s = .error e → TrackStore.openTrack path w = .error e
  opened : ∀ t, TrackStore.openTrack path s = .ok t →
    ∃ u, TrackStore.openTrack path w = .ok u ∧ u.duration = t.duration ∧
      u.saveError = t.saveError ∧ (t.saveError ≠ none → u = t)

namespace Kept

theorem of_openTrack (h : TrackStore.openTrack p w = TrackStore.openTrack p s) : Kept s w p :=
  ⟨fun _ he => h.trans he, fun t ht => ⟨t, h.trans ht, rfl, rfl, fun _ => rfl⟩⟩

theorem trans (h : Kept s w p) (h' : Kept w w' p) : Kept s w' p := by
  refine ⟨fun e he => h'.refused e (h.refused e he), fun t ht => ?_⟩
  obtain ⟨u, hu, hduration, hsave, hsame⟩ := h.opened t ht
  obtain ⟨v, hv, hduration', hsave', hsame'⟩ := h'.opened u hu
  refine ⟨v, hv, hduration'.trans hduration, hsave'.trans hsave, fun hne => ?_⟩
  rw [hsame' (hsave ▸ hne), hsame hne]

/-- What can be opened now could be opened before. -/
theorem opened_before (h : Kept s w p) {u : Track} (hu : TrackStore.openTrack p w = .ok u) :
    ∃ t, TrackStore.openTrack p s = .ok t ∧ u.duration = t.duration ∧
      u.saveError = t.saveError ∧ (t.saveError ≠ none → u = t) := by
  rcases hopen : TrackStore.openTrack p s with e | t
  · cases hu.symm.trans (h.refused e hopen)
  · obtain ⟨u', hu', hkept⟩ := h.opened t hopen
    cases hu.symm.trans hu'
    exact ⟨t, rfl, hkept⟩

variable (editors) in
/-- The turn of any path. -/
theorem turn (hdry : o.dryRun = false) (s : TrackStore) (q p : FilePath) :
    Kept s (processFile TrackStore.backend editors o s q).world p := by
  rcases hpq : same p q
  · exact of_openTrack (TrackStore.openTrack_congr (find?_processFile hpq editors o s))
  rcases hopen : TrackStore.openTrack q s with e | t
  · rw [processFile_of_error hopen]
    exact of_openTrack rfl
  rcases hsave : t.saveError with _ | e
  · obtain ⟨u, hu, hduration, hsave', -⟩ := exists_edited editors hdry hopen hsave
    refine ⟨fun e he => ?_, fun t' ht' => ?_⟩
    · rw [TrackStore.openTrack_same hpq, hopen] at he
      cases he
    · rw [TrackStore.openTrack_same hpq, hopen] at ht'
      cases ht'
      rw [TrackStore.openTrack_same hpq]
      exact ⟨u, hu, hduration, hsave'.trans hsave.symm, fun hne => absurd hsave hne⟩
  · have hkeep : ∀ t', s.find? q = some t' → ¬ Stores editors o q t' := by
      intro t' ht' hstores
      cases (find?_of_openTrack hopen).symm.trans ht'
      cases hsave.symm.trans hstores.saves
    rw [world_of_not_stores hkeep]
    exact of_openTrack rfl

/-- A path fails in the same way as before. -/
theorem outcome_eq_error_iff (h : Kept s w p) {e : TagError} :
    (processFile TrackStore.backend editors o w p).outcome = .error e ↔
      (processFile TrackStore.backend editors o s p).outcome = .error e := by
  rw [TagEdit.outcome_eq_error_iff, TagEdit.outcome_eq_error_iff]
  constructor
  · rintro (he | ⟨u, hu, hidle, hsave⟩)
    · rcases hopen : TrackStore.openTrack p s with e' | t
      · exact .inl ((h.refused e' hopen).symm.trans he)
      · obtain ⟨u, hu, -⟩ := h.opened t hopen
        cases hu.symm.trans he
    · obtain ⟨t, ht, -, hsave', hsame⟩ := h.opened_before hu
      obtain rfl := hsame (by simp [← hsave', hsave])
      exact .inr ⟨u, ht, hidle, hsave⟩
  · rintro (he | ⟨t, ht, hidle, hsave⟩)
    · exact .inl (h.refused e he)
    · obtain ⟨u, hu, -, -, hsame⟩ := h.opened t ht
      obtain rfl := hsame (by simp [hsave])
      exact .inr ⟨u, hu, hidle, hsave⟩

end Kept

/-- Once a path had its turn, or another path to its track, nothing is left to do under it. -/
theorem settled_turn (hdry : o.dryRun = false) (hsettles : Settles editors s paths p)
    (hkept : ∀ r, Kept s w r) (hq : q ∈ paths) (hpq : same p q = true) :
    Settled editors (processFile TrackStore.backend editors o w q).world p := by
  intro u hu hsave f
  obtain ⟨v, hv, -, hsave', -⟩ := (Kept.turn editors hdry w q p).opened_before hu
  obtain ⟨t, ht, hduration, -⟩ := (hkept p).opened_before hv
  have ht' : TrackStore.openTrack q s = .ok t := TrackStore.openTrack_same hpq s ▸ ht
  have hv' : TrackStore.openTrack q w = .ok v := TrackStore.openTrack_same hpq w ▸ hv
  obtain ⟨u', hu', hduration', -, htexts⟩ :=
    exists_edited editors hdry hv' (hsave'.symm.trans hsave)
  rw [TrackStore.openTrack_same hpq] at hu
  cases hu.symm.trans hu'
  -- what is read under `p` is what was made under `q`, be it saved or there before
  have hnew : newText editors q v f = edited editors q t f (v.get f) := by
    rw [newText, hduration]
    rfl
  calc newText editors p u f
      = edited editors p t f (u.get f) := by
        rw [newText, hduration', hduration]
        rfl
    _ = edited editors p t f (edited editors q t f (v.get f)) := by rw [htexts, hnew]
    _ = edited editors q t f (v.get f) := hsettles t ht q hq ht' f _
    _ = u.get f := by rw [htexts, hnew]

/-- No turn undoes that. -/
theorem Settled.turn (h : Settled editors w p) (hdry : o.dryRun = false)
    (hsettles : Settles editors s paths p) (hkept : ∀ r, Kept s w r) (hq : q ∈ paths) :
    Settled editors (processFile TrackStore.backend editors o w q).world p := by
  rcases hpq : same p q
  · intro u hu
    rw [TrackStore.openTrack_congr (find?_processFile hpq editors o w)] at hu
    exact h u hu
  · exact settled_turn hdry hsettles hkept hq hpq

/-! ## What a run leaves -/

theorem Kept.run (hdry : o.dryRun = false) (s : TrackStore) (paths : List FilePath)
    (p : FilePath) : Kept s (processFiles TrackStore.backend editors o s paths).world p := by
  induction paths generalizing s with
  | nil => exact .of_openTrack rfl
  | cons q rest ih =>
    rw [processFiles_cons]
    exact (Kept.turn editors hdry s q p).trans (ih _)

/-- A run settles every path that has a turn in it. -/
theorem settled_run (hdry : o.dryRun = false) (hsettles : Settles editors s paths p)
    {rest : List FilePath} (hrest : ∀ q ∈ rest, q ∈ paths) (hkept : ∀ r, Kept s w r)
    (h : p ∈ rest ∨ Settled editors w p) :
    Settled editors (processFiles TrackStore.backend editors o w rest).world p := by
  induction rest generalizing w with
  | nil => exact h.resolve_left List.not_mem_nil
  | cons q rest ih =>
    obtain ⟨hq, hrest⟩ := List.forall_mem_cons.mp hrest
    rw [processFiles_cons]
    refine ih hrest (fun r => (hkept r).trans (.turn editors hdry w q r)) ?_
    rw [List.mem_cons, or_assoc] at h
    rcases h with rfl | hp | hsettled
    · exact .inr (settled_turn hdry hsettles hkept hq (beq_self_eq_true _))
    · exact .inl hp
    · exact .inr (hsettled.turn hdry hsettles hkept hq)

/-- A path that is settled stays so up to any turn. -/
theorem settled_before (hdry : o.dryRun = false) (hsettles : Settles editors s paths p)
    {rest : List FilePath} (hrest : ∀ q ∈ rest, q ∈ paths) (hkept : ∀ r, Kept s w r)
    (h : Settled editors w p) :
    ∀ t ∈ turnsAmid TrackStore.backend editors o id w rest, Settled editors t.before p := by
  induction rest generalizing w with
  | nil => exact fun t ht => nomatch ht
  | cons q rest ih =>
    obtain ⟨hq, hrest⟩ := List.forall_mem_cons.mp hrest
    rw [turnsAmid, List.forall_mem_cons]
    exact ⟨h, ih hrest (fun r => (hkept r).trans (.turn editors hdry w q r))
      (h.turn hdry hsettles hkept hq)⟩

/-- Every path fails in the same way as if its turn were the first. -/
theorem failures_of_kept (hdry : o.dryRun = false) {rest : List FilePath}
    (hkept : ∀ r, Kept s w r) :
    (turnsAmid TrackStore.backend editors o id w rest).map Turn.failure? =
      rest.map fun p => (Turn.mk p s (processFile TrackStore.backend editors o s p)).failure? := by
  induction rest generalizing w with
  | nil => rfl
  | cons q rest ih =>
    have hrest := ih fun r => (hkept r).trans (.turn editors hdry w q r)
    rw [turnsAmid, List.map_cons, List.map_cons]
    refine congrArg₂ List.cons (Option.ext fun e => ?_) hrest
    rw [Turn.failure?_eq_some_iff, Turn.failure?_eq_some_iff]
    exact (hkept q).outcome_eq_error_iff

/-! ## Turns of a second run -/

/-- The operations on a track. -/
theorem ops_of_openTrack (hopen : TrackStore.openTrack p w = .ok t) :
    (processFile TrackStore.backend editors o w p).ops =
      fileOps editors o (Context.ofFile (display p) t.duration) t.get p := by
  have hlog : Logged TrackStore.backend editors o (Context.ofFile (display p) t.duration) t
    Field.all (editedSession editors o p t) := Logged.sessionAt (List.append_nil _)
  rw [processFile_of_ok hopen, (hlog.finish p w).1, gotten_track]

/-- Where no text changes, a file is only read. -/
theorem reads_of_same {ctx : Context} {got : Field → Text} (hlength : o.updateLength = false)
    (hsame : ∀ f, made editors ctx got f = got f) :
    ∀ op ∈ fileOps editors o ctx got p, op.writes = false := by
  have hstart : lengthOps o = [] := by simp [lengthOps, hlength]
  have hsave : saveOps editors o ctx got = [] := if_neg (by simp [hlength, hsame])
  have hfields : ∀ f, fieldOps editors o ctx got f = [.get f] :=
    fun f => if_neg fun h => h.1 (hsame f)
  intro op hop
  simp only [fileOps, hstart, hsave, hfields, List.mem_cons, List.mem_append, List.mem_flatMap,
    List.not_mem_nil, false_or, or_false] at hop
  rcases hop with rfl | ⟨f, -, rfl⟩ | rfl <;> rfl

/-- A path that is settled and does not fail is read and told to be unchanged. -/
theorem turn_of_settled (hdry : o.dryRun = false) (hlength : o.updateLength = false)
    (h : Settled editors w p) (hfine : ¬ FileFails TrackStore.backend editors o w p) :
    let run := processFile TrackStore.backend editors o w p
    told p run = [.unchanged p] ∧ (∀ op ∈ run.ops, op.writes = false) ∧ run.world = w := by
  intro run
  have hfine' : ∀ e, run.outcome ≠ .error e := fun e he => hfine (fileFails_iff.mpr ⟨e, he⟩)
  rcases hopen : TrackStore.openTrack p w with e | t
  · exact absurd (outcome_eq_error_iff.mpr (.inl hopen)) (hfine' e)
  have hidle : Idle editors o p t := by
    rcases hsave : t.saveError with _ | e
    · exact .inr ⟨h t hopen hsave, hlength⟩
    · by_contra hidle
      exact hfine' e (outcome_eq_error_iff.mpr (.inr ⟨t, hopen, hidle, hsave⟩))
  obtain ⟨hsame, -⟩ := hidle.resolve_left (by simp [hdry])
  refine ⟨(told_unchanged hopen (by simp [hlength]) hsame).2, ?_, ?_⟩
  · rw [ops_of_openTrack hopen]
    exact reads_of_same hlength hsame
  · rw [show run = _ from processFile_of_ok hopen, (finish_of_idle hidle w).1]

end

/-- A second real run fails where the first one did. Every path that it opens and can save, and
whose editors leave alone what they made under any path to the track, is only read, and told to be
unchanged; if all are like that the store stays as it is. For a track with one name it is enough
that the editors are idempotent. -/
theorem second_run_settles (editors : EditorSet) (s : TrackStore) (paths : List FilePath) :
    let run := fun w => processFiles TrackStore.backend editors {} w paths
    let turns := fun w => turnsAmid TrackStore.backend editors {} id w paths
    (∀ w, Composed (run w) (turns w) ∧ (turns w).map Turn.path = paths) ∧
    (turns (run s).world).map Turn.failure? = (turns s).map Turn.failure? ∧
    (∀ t ∈ turns (run s).world, Settles editors s paths t.path →
      ¬ FileFails TrackStore.backend editors {} t.before t.path →
      t.calls = [.unchanged t.path] ∧ ∀ op ∈ t.run.ops, op.writes = false) ∧
    ((∀ p ∈ paths, Settles editors s paths p) → (run (run s).world).world = (run s).world) ∧
    (Idempotent editors s paths →
      ∀ p ∈ paths, (∀ q ∈ paths, same q p = true → display q = display p) →
        Settles editors s paths p) := by
  intro run turns
  have hkept : ∀ p, Kept s (run s).world p := Kept.run rfl s paths
  have hsettled : ∀ p ∈ paths, Settles editors s paths p →
      ∀ t ∈ turns (run s).world, Settled editors t.before p := by
    intro p hp hsettles
    refine settled_before rfl hsettles (fun _ h => h) hkept ?_
    exact settled_run rfl hsettles (fun _ h => h) (fun _ => .of_openTrack rfl) (.inl hp)
  have hcomposed : ∀ w, Composed (run w) (turns w) := fun w =>
    @composed_turnsAmid TrackStore Track TrackStore.backend editors {} id w paths
  have hpaths : ∀ w, (turns w).map Turn.path = paths := fun w => map_path_turnsAmid w paths
  have hturn : ∀ t ∈ turns (run s).world, Settles editors s paths t.path →
      ¬ FileFails TrackStore.backend editors {} t.before t.path →
      t.calls = [.unchanged t.path] ∧ (∀ op ∈ t.run.ops, op.writes = false) ∧
        t.run.world = t.before := by
    intro t ht hsettles hfine
    have hpath : t.path ∈ paths := hpaths _ ▸ List.mem_map_of_mem ht
    rw [Turn.calls, run_of_mem_turnsAmid ht]
    exact turn_of_settled rfl rfl (hsettled _ hpath hsettles t ht) hfine
  refine ⟨fun w => ⟨hcomposed w, hpaths w⟩, ?_, fun t ht hsettles hfine => ?_,
    fun hsettles => world_of_turns fun t ht => ?_, fun h p => h.settles⟩
  · rw [failures_of_kept rfl hkept, failures_of_kept rfl fun _ => .of_openTrack rfl]
  · exact ⟨(hturn t ht hsettles hfine).1, (hturn t ht hsettles hfine).2.1⟩
  · by_cases hfails : FileFails TrackStore.backend editors {} t.before t.path
    · obtain ⟨e, he⟩ := fileFails_iff.mp hfails
      rw [run_of_mem_turnsAmid ht]
      exact world_of_failure he
    · have hpath : t.path ∈ paths := hpaths _ ▸ List.mem_map_of_mem ht
      exact (hturn t ht (hsettles _ hpath) hfails).2.2

/-- A track that comes under two names and loses a text, one that cannot be saved and a path
without a track. -/
theorem second_run_settles_two_names :
    let s : TrackStore := [{ path := [97], fields := fun _ => some ['o'] },
      { path := [98], saveError := some .notAFile }]
    let editors : EditorSet := ⟨[⟨.title, [.set ['n']]⟩, ⟨.year, [.set []]⟩]⟩
    let paths : List FilePath := [[97], [98], [99], [97, 47]]
    let run := fun w => processFiles TrackStore.backend editors {} w paths
    let turns := fun w => turnsAmid TrackStore.backend editors {} id w paths
    (∀ p ∈ paths, Settles editors s paths p) ∧
      (turns (run s).world).map Turn.failure? =
        [none, some .notAFile, some TrackStore.unknownPath, none] ∧
      (∀ t ∈ turns (run s).world, t.failure? = none → t.calls = [.unchanged t.path]) ∧
      (run (run s).world).world = (run s).world := by
  intro s editors paths run turns
  have hsettles : ∀ p ∈ paths, Settles editors s paths p := by
    intro p _ t _ q _ _ f value
    cases f <;> rfl
  obtain ⟨-, hfailures, hturn, hworld, -⟩ := second_run_settles editors s paths
  refine ⟨hsettles, hfailures.trans (by decide +kernel), fun t ht hfine => ?_, hworld hsettles⟩
  have hpath : t.path ∈ paths :=
    map_path_turnsAmid (run s).world paths ▸ List.mem_map_of_mem ht
  refine (hturn t ht (hsettles _ hpath) fun hfails => ?_).1
  have hsome := (isSome_failure?_iff ht).mpr hfails
  rw [hfine] at hsome
  cases hsome

/-- Two names of one track, and an editor that stores the name: each path undoes what the other one
has done, in every run again, although under either path the editor leaves its result alone. -/
theorem second_run_alternates :
    let s : TrackStore := [{ path := [120, 47, 97] }]
    let editors : EditorSet := ⟨[⟨.title, [.run [⟨.assign (.var .file), none⟩]]⟩]⟩
    let paths : List FilePath := [[120, 47, 97], [120, 47, 47, 97]]
    let run := fun w => processFiles TrackStore.backend editors {} w paths
    Idempotent editors s paths ∧ (run s).summary.failed = 0 ∧
      (run (run s).world).summary = { processed := 2, updated := 2 } ∧
      (run (run s).world).calls =
        [.fieldChange .title "x//a".toList "x/a".toList, .updating [120, 47, 97],
          .fieldChange .title "x/a".toList "x//a".toList, .updating [120, 47, 47, 97]] ∧
      .save ∈ (run (run s).world).ops ∧ (run (run s).world).world ≠ (run s).world := by
  intro s editors paths run
  have hidempotent : Idempotent editors s paths := by
    intro p _ t _ f value
    cases f <;> rfl
  have hsaves : ((run (run s).world).world.map Track.saves) ≠ (run s).world.map Track.saves := by
    decide +kernel
  exact ⟨hidempotent, by decide +kernel, by decide +kernel, by decide +kernel, by decide +kernel,
    fun h => hsaves (congrArg _ h)⟩

end TagEdit
