import TagEdit.Proofs.FileEdit
import TagEdit.Proofs.Trace

/-!
# Dry runs

A dry run tells what a real run from the same store would: the changes, the files without any
and those that cannot be opened. What it cannot foresee are the saves and their failures. Both
runs are followed path by path; the real one may have stored other tracks by then, but not the
one whose turn it is.
-/

namespace TagEdit

open TagEdit.Path

/-! ## Kinds of calls -/

namespace Report.Call

/-- Whether a call tells a change of a field. -/
def tellsChange : Call → Bool
  | .fieldChange _ _ _ => true
  | _ => false

/-- Whether a call tells that a file was saved. -/
def tellsSave : Call → Bool
  | .updating _ => true
  | _ => false

end Report.Call

namespace TrackStore

/-- Whether a path leads to a track that can be opened. -/
def opens (s : TrackStore) (p : FilePath) : Bool := (openTrack p s).isOk

/-- Whether a call tells that a save failed, which is any failure of a path that can be opened. -/
def tellsSaveFailure (s : TrackStore) : Report.Call → Bool
  | .failure p _ => s.opens p
  | _ => false

/-- No two of the paths name the same track. -/
def Apart (s : TrackStore) (paths : List FilePath) : Prop :=
  paths.Pairwise fun p q => ∀ t, s.find? p = some t → s.find? q ≠ some t

theorem apart_of_distinct {paths : List FilePath}
    (h : paths.Pairwise fun p q => same p q = false) (s : TrackStore) : s.Apart paths := by
  refine h.imp fun {p q} hpq t hp hq => ?_
  have hsame := same_of_found hp hq
  rw [hpq] at hsame
  cases hsame

theorem find?_congr {p q : FilePath} (h : same p q = true) (s : TrackStore) :
    s.find? p = s.find? q := by
  unfold find?
  simp only [same_congr h]

theorem openTrack_congr {s w : TrackStore} {p : FilePath} (h : w.find? p = s.find? p) :
    openTrack p w = openTrack p s := by
  unfold openTrack
  rw [h]

end TrackStore

/-! ## One file -/

section

variable {editors : EditorSet} {o : RunOptions} {path : FilePath} {t : Track}

/-- The changes that are told of a track. -/
def changeCalls (editors : EditorSet) (path : FilePath) (t : Track) : List Report.Call :=
  Field.all.flatMap (fieldCalls editors (Context.ofFile (display path) t.duration) t.get)

/-- All that is told of a file. -/
def told {World : Type} (path : FilePath) (run : FileRun World) : List Report.Call :=
  run.calls ++
    match run.outcome with
    | .error e => [.failure path e.message]
    | .ok _ => []

theorem calls_add {World : Type} (r : BatchRun World) (p : FilePath) (run : FileRun World) :
    (r.add p run).calls = r.calls ++ told p run := List.append_assoc ..

/-- Every editor reads the text that its field had at the start. -/
theorem gotten_track : gotten TrackStore.backend editors o
    (Context.ofFile (display path) t.duration) t = t.get := by
  funext f
  obtain ⟨done, rest, hall⟩ := List.append_of_mem (Field.mem_all f)
  have hnodup : (done ++ f :: rest).Nodup := hall ▸ Field.all_nodup
  have hf : f ∉ done := fun hmem =>
    (List.nodup_append.mp hnodup).2.2 f hmem f List.mem_cons_self rfl
  have hprogress : Progress editors o path t ([] ++ done) _ :=
    Progress.start.foldl (List.nodup_append.mp hnodup).1
  unfold gotten sessionAt
  rw [takeWhile_of_all hall.symm, hprogress.handle]
  exact staged_get_of_not_mem hf

theorem editedSession_calls :
    (editedSession editors o path t).calls = changeCalls editors path t := by
  have hlog : Logged TrackStore.backend editors o (Context.ofFile (display path) t.duration) t
    Field.all (editedSession editors o path t) := Logged.sessionAt (List.append_nil _)
  rw [hlog.calls, gotten_track]
  rfl

theorem changeCalls_eq_nil (h : ∀ f, newText editors path t f = t.get f) :
    changeCalls editors path t = [] := by
  rw [changeCalls, List.flatMap_eq_nil_iff]
  exact fun f _ => if_neg fun hne => hne (h f)

theorem tellsChange_of_mem_changeCalls {c : Report.Call} (hc : c ∈ changeCalls editors path t) :
    c.tellsChange = true := by
  obtain ⟨f, -, hc⟩ := List.mem_flatMap.mp hc
  unfold fieldCalls at hc
  split at hc <;> simp at hc
  rw [hc]
  rfl

/-- What is told of a track that stays the same. -/
theorem told_unchanged {s : TrackStore} (hopen : TrackStore.openTrack path s = .ok t)
    (hlength : (o.updateLength && !o.dryRun) = false)
    (hsame : ∀ f, newText editors path t f = t.get f) :
    let run := processFile TrackStore.backend editors o s path
    run.outcome = .ok .unchanged ∧ told path run = [.unchanged path] := by
  intro run
  have hrun : run = _ := processFile_of_ok hopen
  have hzero : (editedSession editors o path t).changes = 0 :=
    editedSession_changes.mpr ⟨hlength, hsame⟩
  rw [hrun]
  simp [Session.finish, told, hzero, editedSession_calls, changeCalls_eq_nil hsame]

/-- What a dry run tells of a track with new texts. -/
theorem told_dryRun {s : TrackStore} (hopen : TrackStore.openTrack path s = .ok t)
    (hdry : o.dryRun = true) (hnew : ¬ ∀ f, newText editors path t f = t.get f) :
    let run := processFile TrackStore.backend editors o s path
    run.outcome = .ok .updated ∧ told path run = changeCalls editors path t := by
  intro run
  have hrun : run = _ := processFile_of_ok hopen
  have hpos : (editedSession editors o path t).changes ≠ 0 :=
    fun hzero => hnew (editedSession_changes.mp hzero).2
  rw [hrun]
  simp [Session.finish, told, hpos, hdry, editedSession_calls]

/-- What a real run tells of a track that it has to save. -/
theorem told_saved {s : TrackStore} (hopen : TrackStore.openTrack path s = .ok t)
    (hdry : o.dryRun = false)
    (hdue : o.updateLength = true ∨ ¬ ∀ f, newText editors path t f = t.get f) :
    let run := processFile TrackStore.backend editors o s path
    let changes := changeCalls editors path t
    (∃ e, run.outcome = .error e ∧ told path run = changes ++ [.failure path e.message]) ∨
      run.outcome = .ok .updated ∧ told path run = changes ++ [.updating path] := by
  intro run changes
  have hrun : run = _ := processFile_of_ok hopen
  have hpos : (editedSession editors o path t).changes ≠ 0 := by
    intro hzero
    have hall := editedSession_changes.mp hzero
    rcases hdue with hlength | hnew
    · simp [hdry, hlength] at hall
    · exact hnew hall.2
  rw [hrun]
  simp only [changes, Session.finish, told, if_neg hpos, hdry, Bool.false_eq_true, if_false,
    editedSession_calls]
  rcases TrackStore.backend.save (editedSession editors o path t).handle s with e | w
  · exact .inl ⟨e, rfl, rfl⟩
  · exact .inr ⟨rfl, by simp⟩

/-- A run on a path leaves what a path with another track names. -/
theorem TrackStore.find?_processFile_of_apart {s : TrackStore} {p q : FilePath}
    (h : ∀ t, s.find? p = some t → s.find? q ≠ some t) (editors : EditorSet) (o : RunOptions) :
    (processFile TrackStore.backend editors o s p).world.find? q = s.find? q := by
  rcases hs : same q p
  · exact find?_processFile hs editors o s
  · rcases processFile_world editors o s p with hworld | ⟨t, hfind, -⟩
    · rw [hworld]
    · exact absurd ((find?_congr hs s).trans hfind) (h t hfind)

/-- A dry run leaves the store as it is. -/
theorem world_of_dryRun (hdry : o.dryRun = true) (s : TrackStore) (path : FilePath) :
    (processFile TrackStore.backend editors o s path).world = s := by
  rcases hopen : TrackStore.openTrack path s with e | t
  · rw [processFile_of_error hopen]
  · rw [processFile_of_ok hopen]
    exact (finish_of_idle (.inl hdry) s).1

end

/-! ## All files -/

/-- Whether a call is one that a dry run makes too. -/
def TrackStore.foretells (s : TrackStore) (c : Report.Call) : Bool :=
  !c.tellsSave && !s.tellsSaveFailure c

/-- What a dry run has foretold of a real run from a store, with the length stored or not. -/
structure Foretold (s : TrackStore) (u : Bool) (dry real : BatchRun TrackStore) : Prop where
  world : dry.world = s
  changes : dry.calls.filter Report.Call.tellsChange = real.calls.filter Report.Call.tellsChange
  calls : u = false → dry.calls = real.calls.filter s.foretells
  unchanged : u = false → dry.summary.unchanged = real.summary.unchanged
  updated : u = false →
    dry.summary.updated = real.summary.updated + real.calls.countP s.tellsSaveFailure

section

variable {editors : EditorSet} {s : TrackStore} {u : Bool} {dry real : BatchRun TrackStore}

namespace Foretold

/-- A path of which both runs tell the same, and count the same. -/
theorem add_same (h : Foretold s u dry real) {path : FilePath} {d r : FileRun TrackStore}
    (hworld : d.world = s) (houtcome : d.outcome = r.outcome) (htold : told path d = told path r)
    (hupdated : ∀ c ∈ told path r, s.foretells c = true) :
    Foretold s u (dry.add path d) (real.add path r) := by
  have hfailures : (told path r).countP s.tellsSaveFailure = 0 := by
    rw [List.countP_eq_zero]
    intro c hc
    have hforetold := hupdated c hc
    simp [TrackStore.foretells] at hforetold
    simp [hforetold.2]
  refine ⟨hworld, ?_, fun hu => ?_, fun hu => ?_, fun hu => ?_⟩
  · rw [calls_add, calls_add, List.filter_append, List.filter_append, h.changes, htold]
  · rw [calls_add, calls_add, List.filter_append, h.calls hu, htold,
      List.filter_eq_self.mpr hupdated]
  · have hcount := h.unchanged hu
    simp only [BatchRun.add, houtcome]
    rcases r.outcome with e | _ | _ <;> simp [Summary.count, hcount]
  · have hcount := h.updated hu
    rw [calls_add, List.countP_append, hfailures]
    simp only [BatchRun.add, houtcome]
    rcases r.outcome with e | _ | _ <;> simp [Summary.count, hcount]
    omega

/-- A path of which the real run tells a save, or that it failed, behind the changes. -/
theorem add_saved (h : Foretold s u dry real) {path : FilePath} {d r : FileRun TrackStore}
    {changes : List Report.Call} (hopens : s.opens path = true)
    (hworld : d.world = s) (hchange : ∀ c ∈ changes, c.tellsChange = true)
    (hdry : (told path d).filter Report.Call.tellsChange = changes)
    (hupdated : u = false → d.outcome = .ok .updated ∧ told path d = changes)
    (hreal : (∃ e, r.outcome = .error e ∧ told path r = changes ++ [.failure path e.message]) ∨
      r.outcome = .ok .updated ∧ told path r = changes ++ [.updating path]) :
    Foretold s u (dry.add path d) (real.add path r) := by
  have hkeep : changes.filter Report.Call.tellsChange = changes := List.filter_eq_self.mpr hchange
  have hforetold : changes.filter s.foretells = changes := by
    rw [List.filter_eq_self]
    intro c hc
    have htells := hchange c hc
    cases c <;> simp_all [Report.Call.tellsChange, TrackStore.foretells, Report.Call.tellsSave,
      TrackStore.tellsSaveFailure]
  have hfailures : changes.countP s.tellsSaveFailure = 0 := by
    rw [List.countP_eq_zero]
    intro c hc
    have htells := hchange c hc
    cases c <;> simp_all [Report.Call.tellsChange, TrackStore.tellsSaveFailure]
  rcases hreal with ⟨e, houtcome, htold⟩ | ⟨houtcome, htold⟩
  · refine ⟨hworld, ?_, fun hu => ?_, fun hu => ?_, fun hu => ?_⟩
    · simp [calls_add, htold, h.changes, hdry, hkeep, Report.Call.tellsChange]
    · simp [calls_add, htold, h.calls hu, hupdated hu, hforetold, TrackStore.foretells,
        TrackStore.tellsSaveFailure, hopens]
    · simp [BatchRun.add, houtcome, hupdated hu, h.unchanged hu, Summary.count]
    · rw [calls_add, htold]
      simp [BatchRun.add, houtcome, hupdated hu, h.updated hu, Summary.count, hfailures,
        TrackStore.tellsSaveFailure, hopens]
      omega
  · refine ⟨hworld, ?_, fun hu => ?_, fun hu => ?_, fun hu => ?_⟩
    · simp [calls_add, htold, h.changes, hdry, hkeep, Report.Call.tellsChange]
    · simp [calls_add, htold, h.calls hu, hupdated hu, hforetold, TrackStore.foretells,
        Report.Call.tellsSave]
    · simp [BatchRun.add, houtcome, hupdated hu, h.unchanged hu, Summary.count]
    · rw [calls_add, htold]
      simp [BatchRun.add, houtcome, hupdated hu, h.updated hu, Summary.count, hfailures,
        TrackStore.tellsSaveFailure]
      omega

/-- One more path, of which the real run still finds the track that was there at the start. -/
theorem add (h : Foretold s u dry real) {path : FilePath}
    (hfind : real.world.find? path = s.find? path) :
    Foretold s u
      (dry.add path (processFile TrackStore.backend editors { dryRun := true, updateLength := u }
        dry.world path))
      (real.add path (processFile TrackStore.backend editors { updateLength := u }
        real.world path)) := by
  rw [h.world]
  rcases hopen : TrackStore.openTrack path s with e | t
  · have hopens : s.opens path = false := by
      simp [TrackStore.opens, hopen, Except.isOk, Except.toBool]
    have hopen' := (TrackStore.openTrack_congr hfind).trans hopen
    refine h.add_same (world_of_dryRun rfl s path) ?_ ?_ ?_
    · rw [processFile_of_error hopen, processFile_of_error hopen']
    · rw [processFile_of_error hopen, processFile_of_error hopen']
      rfl
    · rw [processFile_of_error hopen']
      simp [told, TrackStore.foretells, TrackStore.tellsSaveFailure, Report.Call.tellsSave, hopens]
  · have hopens : s.opens path = true := by
      simp [TrackStore.opens, hopen, Except.isOk, Except.toBool]
    have hopen' := (TrackStore.openTrack_congr hfind).trans hopen
    by_cases hsame : ∀ f, newText editors path t f = t.get f
    · have hd : _ ∧ _ := told_unchanged (o := { dryRun := true, updateLength := u }) hopen
        (by simp) hsame
      cases u with
      | false =>
        have hr : _ ∧ _ := told_unchanged (o := { updateLength := false }) hopen' rfl hsame
        refine h.add_same (world_of_dryRun rfl s path) (hd.1.trans hr.1.symm)
          (hd.2.trans hr.2.symm) ?_
        rw [hr.2]
        simp [TrackStore.foretells, TrackStore.tellsSaveFailure, Report.Call.tellsSave]
      | true =>
        refine h.add_saved hopens (world_of_dryRun rfl s path) (by simp) ?_ (by simp)
          (changeCalls_eq_nil hsame ▸ told_saved hopen' rfl (.inl rfl))
        rw [hd.2]
        rfl
    · have hd : _ ∧ _ := told_dryRun (o := { dryRun := true, updateLength := u }) hopen rfl hsame
      refine h.add_saved hopens (world_of_dryRun rfl s path)
        (fun c => tellsChange_of_mem_changeCalls) ?_ (fun _ => hd)
        (told_saved hopen' rfl (.inr hsame))
      rw [hd.2, List.filter_eq_self]
      exact fun c => tellsChange_of_mem_changeCalls

/-- All paths, of which none but the first may name a track that the run has edited. -/
theorem foldl (h : Foretold s u dry real) {paths : List FilePath} (hapart : s.Apart paths)
    (hfind : ∀ p ∈ paths, real.world.find? p = s.find? p) :
    Foretold s u
      (paths.foldl (fun r p => r.add p (processFile TrackStore.backend editors
        { dryRun := true, updateLength := u } r.world p)) dry)
      (paths.foldl (fun r p => r.add p (processFile TrackStore.backend editors
        { updateLength := u } r.world p)) real) := by
  induction paths generalizing dry real with
  | nil => exact h
  | cons p paths ih =>
    obtain ⟨hp, hapart⟩ := List.pairwise_cons.mp hapart
    refine ih (h.add (hfind p List.mem_cons_self)) hapart fun q hq => ?_
    rw [← hfind q (List.mem_cons_of_mem _ hq)]
    exact TrackStore.find?_processFile_of_apart (by
      rw [hfind p List.mem_cons_self, hfind q (List.mem_cons_of_mem _ hq)]
      exact hp q hq) editors _

end Foretold

end

/-- On paths that name different tracks, a dry run tells what the real run tells without the saves
and their failures, and counts the files with changes among which the real run has the saved ones
and the failed ones. With the length stored too the changes that are told are still the same. A
dry run leaves the store as it is and so can be repeated. -/
theorem dryRun_foretells (editors : EditorSet) (s : TrackStore) (paths : List FilePath)
    (hapart : s.Apart paths) :
    let dry := fun (u : Bool) (w : TrackStore) =>
      processFiles TrackStore.backend editors { dryRun := true, updateLength := u } w paths
    let real := fun (u : Bool) =>
      processFiles TrackStore.backend editors { dryRun := false, updateLength := u } s paths
    (dry false s).calls = (real false).calls.filter s.foretells ∧
    (dry false s).summary.unchanged = (real false).summary.unchanged ∧
    (dry false s).summary.updated =
      (real false).summary.updated + (real false).calls.countP s.tellsSaveFailure ∧
    ∀ u, (dry u s).calls.filter Report.Call.tellsChange =
        (real u).calls.filter Report.Call.tellsChange ∧
      (dry u s).world = s ∧ dry u (dry u s).world = dry u s := by
  intro dry real
  have hforetold : ∀ u, Foretold s u (dry u s) (real u) := by
    intro u
    have hstart : Foretold s u { world := s } { world := s } :=
      ⟨rfl, rfl, fun _ => rfl, fun _ => rfl, fun _ => rfl⟩
    exact hstart.foldl hapart fun _ _ => rfl
  refine ⟨(hforetold false).calls rfl, (hforetold false).unchanged rfl,
    (hforetold false).updated rfl, fun u => ⟨(hforetold u).changes, (hforetold u).world, ?_⟩⟩
  rw [(hforetold u).world]

/-- A track that is saved, one that cannot be saved, one without changes and one that is missing,
the second one under another spelling. -/
theorem dryRun_foretells_failure :
    let track := fun (p : FilePath) (title : Text) =>
      ({ path := p, fields := fun f => if f = .title then some title else none } : Track)
    let s : TrackStore :=
      [track [97] ['o'], { track [98] ['o'] with saveError := some .notAFile }, track [99] ['n']]
    let editors : EditorSet := ⟨[⟨.title, [.set ['n']]⟩]⟩
    let paths : List FilePath := [[97], [98, 47], [99], [100]]
    let run := processFiles TrackStore.backend editors { dryRun := true } s paths
    s.Apart paths ∧ run.summary.updated = 2 ∧ run.summary.unchanged = 1 ∧
      run.calls = [.fieldChange .title ['o'] ['n'], .fieldChange .title ['o'] ['n'],
        .unchanged [99], .failure [100] "No such file".toList] := by
  intro track s editors paths run
  have hapart : s.Apart paths := TrackStore.apart_of_distinct (by decide) s
  obtain ⟨hcalls, hunchanged, hupdated, -⟩ := dryRun_foretells editors s paths hapart
  exact ⟨hapart, hupdated.trans (by decide +kernel), hunchanged.trans (by decide +kernel),
    hcalls.trans (by decide +kernel)⟩

end TagEdit
