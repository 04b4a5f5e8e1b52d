import TagEdit.Proofs.Pipeline
import TagEdit.Proofs.Store

/-!
# Editing one track

The seven editors run in a row on a staged copy, but each reads its own field
only, so that the outcome is pointwise: every field holds what its editor makes
of its old text. The copy reaches the store as a whole or not at all.
-/

namespace TagEdit

open TagEdit.Path

/-! ## Pointwise edits -/

/-- What the editors make of a field of a track. -/
def newText (editors : EditorSet) (path : FilePath) (t : Track) (f : Field) : Text :=
  (editors.get f).apply (Context.ofFile (display path) t.duration) (t.get f)

section

variable (editors : EditorSet) (o : RunOptions) (path : FilePath) (t : Track)

/-- Whether there is nothing to save. -/
def Idle : Prop :=
  o.dryRun = true ∨ (∀ f, newText editors path t f = t.get f) ∧ o.updateLength = false

/-- How a field is stored after its edit; an empty text that was set has no entry. -/
def newEntry (f : Field) : Option Text :=
  if newText editors path t f = t.get f then t.fields f
  else if (newText editors path t f).isEmpty then none else some (newText editors path t f)

/-- A track that was edited and saved, compared with the track before. -/
structure Edited (u : Track) : Prop where
  get : ∀ f, u.get f = newText editors path t f
  entry : ∀ f, u.fields f = newEntry editors path t f
  saves : u.saves = t.saves + 1
  lengthUpdates : u.lengthUpdates = t.lengthUpdates + if o.updateLength then 1 else 0
  frame : u.path = t.path ∧ u.duration = t.duration ∧ u.openError = t.openError ∧
    u.saveError = t.saveError

/-- A track with the edits of some fields staged. -/
def staged (done : List Field) : Track :=
  { t with
    lengthUpdates := t.lengthUpdates + if o.updateLength && !o.dryRun then 1 else 0
    fields := fun f =>
      if f ∈ done ∧ o.dryRun = false then newEntry editors path t f else t.fields f }

/-- The copy of a track that is saved. -/
def saved : Track :=
  { staged editors o path t Field.all with saves := t.saves + 1 }

/-- The session of a track after all editors. -/
def editedSession : Session Track :=
  (Session.start TrackStore.backend o t).editAll TrackStore.backend editors o
    (Context.ofFile (display path) t.duration)

/-- What holds of a session once the editors of some fields have run. -/
structure Progress (done : List Field) (s : Session Track) : Prop where
  handle : s.handle = staged editors o path t done
  changes : s.changes = 0 ↔
    (o.updateLength && !o.dryRun) = false ∧ ∀ f ∈ done, newText editors path t f = t.get f

end

variable {editors : EditorSet} {o : RunOptions} {path : FilePath} {t : Track}

theorem getD_newEntry (f : Field) :
    (newEntry editors path t f).getD [] = newText editors path t f := by
  unfold newEntry
  split
  · rename_i h
    exact h.symm
  · split
    · rename_i h
      exact (List.isEmpty_iff.mp h).symm
    · rfl

theorem staged_get_of_not_mem {done : List Field} {f : Field} (hf : f ∉ done) :
    (staged editors o path t done).get f = t.get f := by
  show Option.getD (if _ then _ else _) _ = _
  rw [if_neg fun h => hf h.1]
  rfl

theorem staged_nil : staged editors o path t [] =
    { t with lengthUpdates := t.lengthUpdates + if o.updateLength && !o.dryRun then 1 else 0 } := by
  simp only [staged, List.not_mem_nil, false_and, if_false]

/-- Nothing is staged for a field that stays the same, nor on a dry run. -/
theorem staged_append_of_keep {f : Field} (h : newText editors path t f = t.get f ∨ o.dryRun = true)
    (done : List Field) : staged editors o path t (done ++ [f]) = staged editors o path t done := by
  have hfields : ∀ g : Field, (if g ∈ done ++ [f] ∧ o.dryRun = false then newEntry editors path t g
      else t.fields g) = if g ∈ done ∧ o.dryRun = false then newEntry editors path t g
      else t.fields g := by
    intro g
    by_cases hg : g = f
    · subst hg
      rcases h with h | h
      · have hentry : newEntry editors path t g = t.fields g := if_pos h
        rw [hentry, ite_self, ite_self]
      · simp [h]
    · simp [hg]
  unfold staged
  simp only [hfields]

/-- The new text of a field is staged. -/
theorem staged_append_of_ne {f : Field} (h : newText editors path t f ≠ t.get f)
    (hdry : o.dryRun = false) (done : List Field) : staged editors o path t (done ++ [f]) =
      (staged editors o path t done).set f (newText editors path t f) := by
  have hfields : ∀ g : Field, (if g ∈ done ++ [f] ∧ o.dryRun = false then newEntry editors path t g
      else t.fields g) = if g = f then
        if (newText editors path t f).isEmpty then none else some (newText editors path t f)
      else if g ∈ done ∧ o.dryRun = false then newEntry editors path t g else t.fields g := by
    intro g
    by_cases hg : g = f
    · subst hg
      rw [if_pos ⟨by simp, hdry⟩, if_pos rfl]
      exact if_neg h
    · simp [hg]
  unfold staged Track.set
  simp only [hfields]

namespace Progress

theorem start : Progress editors o path t [] (Session.start TrackStore.backend o t) := by
  unfold Session.start
  split
  · rename_i h
    refine ⟨?_, by simp [h]⟩
    rw [staged_nil, if_pos h]
    rfl
  · rename_i h
    refine ⟨?_, by simpa using h⟩
    rw [staged_nil, if_neg h]
    rfl

/-- Running the editor of one more field. It reads that field, of which nothing is staged yet. -/
theorem edit {done : List Field} {s : Session Track} (h : Progress editors o path t done s)
    {f : Field} (hf : f ∉ done) :
    Progress editors o path t (done ++ [f]) (s.edit TrackStore.backend editors o
      (Context.ofFile (display path) t.duration) f) := by
  have hold : TrackStore.backend.get s.handle f = t.get f := by
    rw [h.handle]
    exact staged_get_of_not_mem hf
  have hnew : (editors.get f).apply (Context.ofFile (display path) t.duration) (t.get f) =
      newText editors path t f := rfl
  unfold Session.edit
  simp only [hold, hnew]
  by_cases hsame : newText editors path t f = t.get f
  · rw [if_pos hsame]
    refine ⟨?_, ?_⟩
    · rw [staged_append_of_keep (.inl hsame)]
      exact h.handle
    · show s.changes = 0 ↔ _
      simp [h.changes, or_imp, forall_and, hsame]
  · rw [if_neg hsame]
    refine ⟨?_, ?_⟩
    · show (if o.dryRun = true then s.handle else Track.set s.handle f _) = _
      split
      · rename_i hdry
        rw [staged_append_of_keep (.inr hdry)]
        exact h.handle
      · rename_i hdry
        rw [staged_append_of_ne hsame (Bool.eq_false_iff.mpr hdry), h.handle]
    · simp [or_imp, forall_and, hsame]

theorem foldl {done fields : List Field} {s : Session Track}
    (h : Progress editors o path t done s) (hnodup : (done ++ fields).Nodup) :
    Progress editors o path t (done ++ fields)
      (fields.foldl (Session.edit TrackStore.backend editors o
        (Context.ofFile (display path) t.duration)) s) := by
  induction fields generalizing done s with
  | nil =>
    rw [List.append_nil]
    exact h
  | cons f fields ih =>
    have hf : f ∉ done := fun hmem => 
      (List.nodup_append.mp hnodup).2.2 f hmem f List.mem_cons_self rfl
    have hnodup : ((done ++ [f]) ++ fields).Nodup := by
      rw [List.append_assoc]
      exact hnodup
    have hstep := ih (h.edit hf) hnodup
    rw [List.append_assoc] at hstep
    exact hstep

/-- After the editors of all fields. -/
theorem editAll : Progress editors o path t Field.all (editedSession editors o path t) :=
  foldl start (by decide)

end Progress

/-! ## One file -/

theorem find?_of_openTrack {s : TrackStore} (h : TrackStore.openTrack path s = .ok t) :
    s.find? path = some t := by
  unfold TrackStore.openTrack at h
  rcases hs : s.find? path with _ | u
  · rw [hs] at h
    cases h
  · rw [hs] at h
    rcases hu : u.openError with _ | e
    · simp only [hu, Option.elim_none, Except.ok.injEq] at h
      rw [h]
    · simp only [hu, Option.elim_some] at h
      cases h

theorem processFile_of_error {s : TrackStore} {e : TagError}
    (h : TrackStore.openTrack path s = .error e) :
    processFile TrackStore.backend editors o s path = { world := s, outcome := .error e } := by
  have hopen : TrackStore.backend.openFile path s = .error e := h
  simp only [processFile, hopen]

/-- A file that was opened is edited as a whole and then finished. -/
theorem processFile_of_ok {s : TrackStore} (h : TrackStore.openTrack path s = .ok t) :
    processFile TrackStore.backend editors o s path =
      (editedSession editors o path t).finish TrackStore.backend o path s := by
  have hopen : TrackStore.backend.openFile path s = .ok t := h
  have hduration : (Session.start TrackStore.backend o t).handle.duration = t.duration := by
    have hstart : Progress editors o path t [] _ := Progress.start
    rw [hstart.handle]
    rfl
  simp only [processFile, hopen]
  show Session.finish _ _ _ _ (Session.editAll _ _ _ (Context.ofFile _ (Track.duration _)) _) = _
  rw [hduration]
  rfl

theorem editedSession_changes : (editedSession editors o path t).changes = 0 ↔
    (o.updateLength && !o.dryRun) = false ∧ ∀ f, newText editors path t f = t.get f := by
  simp only [Progress.editAll.changes, Field.mem_all, forall_const]

theorem saved_path : (saved editors o path t).path = t.path := rfl

theorem edited_saved (hdry : o.dryRun = false) :
    Edited editors o path t (saved editors o path t) := by
  have hentry : ∀ f, (saved editors o path t).fields f = newEntry editors path t f :=
    fun f => if_pos ⟨Field.mem_all f, hdry⟩
  refine ⟨fun f => ?_, hentry, rfl, ?_, rfl, rfl, rfl, rfl⟩
  · show ((saved editors o path t).fields f).getD [] = _
    rw [hentry, getD_newEntry]
  · simp [saved, staged, hdry]

/-- Nothing reaches the store if there is nothing to save. -/
theorem finish_of_idle (hidle : Idle editors o path t) (s : TrackStore) :
    let run := (editedSession editors o path t).finish TrackStore.backend o path s
    run.world = s ∧
      ((run.outcome = .ok .unchanged ∧ ∀ f, newText editors path t f = t.get f) ∨
        (run.outcome = .ok .updated ∧ ∃ f, newText editors path t f ≠ t.get f)) := by
  intro run
  have hlength : (o.updateLength && !o.dryRun) = false := by
    rcases hidle with hdry | ⟨-, hlength⟩
    · simp [hdry]
    · simp [hlength]
  by_cases hsame : ∀ f, newText editors path t f = t.get f
  · have hzero := editedSession_changes.mpr ⟨hlength, hsame⟩
    have hrun : run.world = s ∧ run.outcome = .ok .unchanged := by
      simp only [run, Session.finish, if_pos hzero, and_self]
    exact ⟨hrun.1, .inl ⟨hrun.2, hsame⟩⟩
  · have hpos : (editedSession editors o path t).changes ≠ 0 :=
      fun hzero => hsame (editedSession_changes.mp hzero).2
    have hdry : o.dryRun = true := hidle.resolve_right fun h => hsame h.1
    have hrun : run.world = s ∧ run.outcome = .ok .updated := by
      simp only [run, Session.finish, if_neg hpos, if_pos hdry, and_self]
    exact ⟨hrun.1, .inr ⟨hrun.2, Classical.not_forall.mp hsame⟩⟩

/-- Otherwise everything staged is saved at once, unless the track refuses. -/
theorem finish_of_not_idle (hidle : ¬ Idle editors o path t) (s : TrackStore) :
    let run := (editedSession editors o path t).finish TrackStore.backend o path s
    match t.saveError with
    | some e => run.outcome = .error e ∧ run.world = s
    | none => run.outcome = .ok .updated ∧ run.world = s.put (saved editors o path t) ∧
        Edited editors o path t (saved editors o path t) := by
  intro run
  have hdry : o.dryRun = false := Bool.eq_false_iff.mpr fun hdry => hidle (.inl hdry)
  have hpos : (editedSession editors o path t).changes ≠ 0 := by
    intro hzero
    have hall := editedSession_changes.mp hzero
    exact hidle (.inr ⟨hall.2, by simpa [hdry] using hall.1⟩)
  have hsave : TrackStore.backend.save (editedSession editors o path t).handle s =
      TrackStore.saveTrack (staged editors o path t Field.all) s := by
    rw [Progress.editAll.handle]
    rfl
  simp only [run, Session.finish, if_neg hpos, hdry, Bool.false_eq_true, if_false, hsave]
  rcases he : t.saveError with _ | e
  · have hsaved : (staged editors o path t Field.all).saveError = none := he
    rw [TrackStore.saveTrack_of_none hsaved]
    exact ⟨rfl, rfl, edited_saved hdry⟩
  · have hrefused : (staged editors o path t Field.all).saveError = some e := he
    rw [TrackStore.saveTrack_of_some hrefused]
    exact ⟨rfl, rfl⟩

/-! ## All or nothing -/

/-- What a session does and tells at its end depends on its track alone. -/
theorem finish_congr (session : Session Track) (s s' : TrackStore) :
    let run := session.finish TrackStore.backend o path s
    let run' := session.finish TrackStore.backend o path s'
    run'.ops = run.ops ∧ run'.calls = run.calls ∧ run'.outcome = run.outcome := by
  have hsave : ∀ s, TrackStore.backend.save session.handle s =
      TrackStore.saveTrack session.handle s := fun _ => rfl
  unfold Session.finish
  dsimp only
  split
  · exact ⟨rfl, rfl, rfl⟩
  split
  · exact ⟨rfl, rfl, rfl⟩
  rw [hsave, hsave]
  rcases he : session.handle.saveError with _ | e
  · rw [TrackStore.saveTrack_of_none he, TrackStore.saveTrack_of_none he]
    exact ⟨rfl, rfl, rfl⟩
  · rw [TrackStore.saveTrack_of_some he, TrackStore.saveTrack_of_some he]
    exact ⟨rfl, rfl, rfl⟩

/-- What becomes of the track that a path names depends on no other track. -/
theorem processFile_congr {s s' : TrackStore} (h : s'.find? path = s.find? path) :
    let run := processFile TrackStore.backend editors o s path
    let run' := processFile TrackStore.backend editors o s' path
    run'.outcome = run.outcome ∧ run'.world.find? path = run.world.find? path := by
  intro run run'
  have hopens : TrackStore.openTrack path s' = TrackStore.openTrack path s := by
    unfold TrackStore.openTrack
    rw [h]
  rcases hopen : TrackStore.openTrack path s with e | t
  · have hrun : run = { world := s, outcome := .error e } := processFile_of_error hopen
    have hrun' : run' = { world := s', outcome := .error e } :=
      processFile_of_error (hopens.trans hopen)
    rw [hrun, hrun']
    exact ⟨rfl, h⟩
  · have hrun : run = _ := processFile_of_ok hopen
    have hrun' : run' = _ := processFile_of_ok (hopens.trans hopen)
    have hfind := find?_of_openTrack hopen
    rw [hrun, hrun']
    refine ⟨(finish_congr _ s s').2.2, ?_⟩
    by_cases hidle : Idle editors o path t
    · rw [(finish_of_idle hidle s).1, (finish_of_idle hidle s').1, h]
    · have hs := finish_of_not_idle hidle s
      have hs' := finish_of_not_idle hidle s'
      rcases he : t.saveError with _ | e
      · simp only [he] at hs hs'
        rw [hs.2.1, hs'.2.1, TrackStore.find?_put hfind saved_path,
          TrackStore.find?_put (h.trans hfind) saved_path]
      · simp only [he] at hs hs'
        rw [hs.2, hs'.2, h]

/-- The store is as it was, or the one track is replaced by its edited copy. -/
theorem processFile_world (editors : EditorSet) (o : RunOptions) (s : TrackStore)
    (path : FilePath) :
    let run := processFile TrackStore.backend editors o s path
    run.world = s ∨
      ∃ t, s.find? path = some t ∧ run.world = s.put (saved editors o path t) := by
  intro run
  rcases hopen : TrackStore.openTrack path s with e | t
  · have hrun : run = { world := s, outcome := .error e } := processFile_of_error hopen
    rw [hrun]
    exact .inl rfl
  · have hrun : run = _ := processFile_of_ok hopen
    rw [hrun]
    by_cases hidle : Idle editors o path t
    · exact .inl (finish_of_idle hidle s).1
    · have hs := finish_of_not_idle hidle s
      rcases he : t.saveError with _ | e
      · simp only [he] at hs
        exact .inr ⟨t, find?_of_openTrack hopen, hs.2.1⟩
      · simp only [he] at hs
        exact .inl hs.2

/-- The other tracks are left as they are. -/
theorem others_processFile (editors : EditorSet) (o : RunOptions) (s : TrackStore)
    (path : FilePath) :
    (processFile TrackStore.backend editors o s path).world.others path = s.others path := by
  rcases processFile_world editors o s path with hworld | ⟨t, hfind, hworld⟩
  · rw [hworld]
  · rw [hworld, TrackStore.others_put hfind saved_path]

/-- A run on a path leaves what any other path names. -/
theorem find?_processFile {q : FilePath} (hq : same q path = false) (editors : EditorSet)
    (o : RunOptions) (s : TrackStore) :
    (processFile TrackStore.backend editors o s path).world.find? q = s.find? q :=
  TrackStore.find?_eq_of_others hq (others_processFile editors o s path)

/-- What becomes of a field is determined by its own fragments and text, the path and the
duration. -/
theorem newText_congr {r r' : Registry} {editors editors' : EditorSet} {f : Field}
    {path path' : FilePath} {t t' : Track} (hr : r.compile = .ok editors)
    (hr' : r'.compile = .ok editors') (hfragments : r'.fragments f = r.fragments f)
    (hpath : display path' = display path) (hduration : t'.duration = t.duration)
    (hget : t'.get f = t.get f) :
    newText editors' path' t' f = newText editors path t f := by
  have heditor : editors'.get f = editors.get f := by
    have hc := r'.compile_get hr' f
    rw [hfragments, r.compile_get hr f] at hc
    exact (Except.ok.inj hc).symm
  unfold newText
  rw [heditor, hpath, hduration, hget]

/-- A run on a path does exactly one of four things: the track cannot be opened, there is nothing
to save, the track cannot be saved, or it is saved with every field edited on its own. Only in
the last case the store changes, and only in that track. What becomes of a field depends on no
fragments and no texts of other fields, and what becomes of a track on no other track. -/
theorem processFile_all_or_nothing (editors : EditorSet) (o : RunOptions) (s : TrackStore)
    (path : FilePath) :
    let run := processFile TrackStore.backend editors o s path
    (match TrackStore.openTrack path s with
      | .error e => run.outcome = .error e ∧ run.world = s
      | .ok t =>
        (Idle editors o path t → run.world = s ∧
          ((run.outcome = .ok .unchanged ∧ ∀ f, newText editors path t f = t.get f) ∨
            (run.outcome = .ok .updated ∧ ∃ f, newText editors path t f ≠ t.get f))) ∧
        (¬ Idle editors o path t →
          match t.saveError with
          | some e => run.outcome = .error e ∧ run.world = s
          | none => run.outcome = .ok .updated ∧
              ∃ u, run.world.find? path = some u ∧ Edited editors o path t u)) ∧
    run.world.others path = s.others path ∧
    (∀ s' : TrackStore, s'.find? path = s.find? path →
      let run' := processFile TrackStore.backend editors o s' path
      run'.outcome = run.outcome ∧ run'.world.find? path = run.world.find? path) ∧
    ∀ r : Registry, r.compile = .ok editors → ∀ f,
      Editor.compile f (r.fragments f) = .ok (editors.get f) ∧
      ∀ (r' : Registry) (editors' : EditorSet) (path' : FilePath) (t t' : Track),
        r'.compile = .ok editors' → r'.fragments f = r.fragments f →
        display path' = display path → t'.duration = t.duration → t'.get f = t.get f →
        newText editors' path' t' f = newText editors path t f := by
  intro run
  refine ⟨?_, others_processFile editors o s path, fun s' => processFile_congr,
    fun r hr f => ⟨r.compile_get hr f, fun r' editors' path' t t' => newText_congr hr⟩⟩
  split
  · rename_i e hopen
    have hrun : run = { world := s, outcome := .error e } := processFile_of_error hopen
    rw [hrun]
    exact ⟨rfl, rfl⟩
  · rename_i t hopen
    have hrun : run = _ := processFile_of_ok hopen
    rw [hrun]
    refine ⟨fun hidle => finish_of_idle hidle s, fun hidle => ?_⟩
    have hs := finish_of_not_idle hidle s
    split
    · rename_i e he
      simp only [he] at hs
      exact hs
    · rename_i he
      simp only [he] at hs
      refine ⟨hs.1, _, ?_, hs.2.2⟩
      rw [hs.2.1, TrackStore.find?_put (find?_of_openTrack hopen) saved_path]

/-- With `last` in one field, a new text in the next and an empty one in a third, the length
stored too. -/
theorem processFile_all_or_nothing_last :
    let t : Track := { path := [97], fields := fun _ => some ['o'] }
    let editors : EditorSet :=
      ⟨[⟨.title, [.run [⟨.last, none⟩], .set ['x']]⟩, ⟨.artist, [.set ['n']]⟩,
        ⟨.year, [.set []]⟩]⟩
    let run := processFile TrackStore.backend editors { updateLength := true }
      [{ path := [98] }, t] [97]
    run.outcome = .ok .updated ∧ ∃ u, run.world.find? [97] = some u ∧
      u.get .title = ['o'] ∧ u.get .artist = ['n'] ∧ u.fields .year = none ∧
      u.saves = 1 ∧ u.lengthUpdates = 1 := by
  intro t editors run
  have hopen : TrackStore.openTrack [97] [{ path := [98] }, t] = .ok t := rfl
  have hactive : ¬ Idle editors { updateLength := true } [97] t := by
    rintro (h | ⟨-, h⟩) <;> cases h
  have hall := (processFile_all_or_nothing editors { updateLength := true }
    [{ path := [98] }, t] [97]).1
  rw [hopen] at hall
  obtain ⟨hrun, u, hfind, hu⟩ := hall.2 hactive
  have hyear : newEntry editors [97] t .year = none := rfl
  exact ⟨hrun, u, hfind, hu.get .title, hu.get .artist, (hu.entry .year).trans hyear,
    hu.saves, hu.lengthUpdates⟩

end TagEdit
