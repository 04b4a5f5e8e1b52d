import TagEdit.Proofs.ExitStatus
import TagEdit.Proofs.Turns

/-!
# Accounts of a run

Every path is counted once and told of once. `Ending` says what closes the account of a path, from
the answers of the store alone: whether it opens a file, the texts it gives, and what it makes of
a save. At a turn the changes of fields are told first and the ending last, and over a run the
counts and the failures that are told come from the turns one by one.
-/

namespace TagEdit

open TagEdit.Path

variable {World Handle : Type}

/-- The path that a call tells to have failed. -/
def Report.Call.failedPath? : Report.Call → Option FilePath
  | .failure p _ => some p
  | _ => none

/-! ## One turn -/

section

variable (b : Backend World Handle) (editors : EditorSet) (o : RunOptions)

/-- An open file has something to save: its length, or what an editor makes of the text that is got
for its field. -/
def Changed (path : FilePath) (h : Handle) : Prop :=
  let ctx := Context.ofFile (display path) (b.duration (b.after h (lengthOps o)))
  lengthOps o ≠ [] ∨
    ∃ f, made editors ctx (gotten b editors o ctx h) f ≠ gotten b editors o ctx h f

/-- What closes the account of a path, if anything does. -/
inductive Ending (w : World) (path : FilePath) : Option Report.Call → Prop where
  | refused {e : TagError} (hopen : b.openFile path w = .error e) :
      Ending w path (some (.failure path e.message))
  | unchanged {h : Handle} (hopen : b.openFile path w = .ok h)
      (hsame : ¬ Changed b editors o path h) : Ending w path (some (.unchanged path))
  | foretold {h : Handle} (hopen : b.openFile path w = .ok h)
      (hchanged : Changed b editors o path h) (hdry : o.dryRun = true) : Ending w path none
  | unsaved {h : Handle} {e : TagError} (hopen : b.openFile path w = .ok h)
      (hchanged : Changed b editors o path h) (hdry : o.dryRun = false)
      (hfail : b.save (b.after h (processFile b editors o w path).ops) w = .error e) :
      Ending w path (some (.failure path e.message))
  | saved {h : Handle} {w' : World} (hopen : b.openFile path w = .ok h)
      (hchanged : Changed b editors o path h) (hdry : o.dryRun = false)
      (hsave : b.save (b.after h (processFile b editors o w path).ops) w = .ok w') :
      Ending w path (some (.updating path))

/-- The account of a turn: changes of fields, and at most one call that closes it. -/
structure Accounted (t : Turn World) (changes : List Report.Call)
    (closing : Option Report.Call) : Prop where
  calls : t.calls = changes ++ closing.toList
  changes : ∀ c ∈ changes, c.tellsChange = true
  unchanged : closing = some (.unchanged t.path) ↔
    ∃ h, b.openFile t.path t.before = .ok h ∧ ¬ Changed b editors o t.path h
  updating : closing = some (.updating t.path) ↔ FileSaved b editors o t.before t.path
  failure : (∃ message, closing = some (.failure t.path message)) ↔
    FileFails b editors o t.before t.path
  absent : closing = none ↔
    o.dryRun = true ∧ ∃ h, b.openFile t.path t.before = .ok h ∧ Changed b editors o t.path h

end

section

variable {b : Backend World Handle} {editors : EditorSet} {o : RunOptions} {w : World}
  {path : FilePath} {h : Handle}

/-- A file has something to save exactly if its session counts a change. -/
theorem Logged.changed_iff {ctx : Context} {s : Session Handle}
    (hs : Logged b editors o ctx h Field.all s)
    (hctx : ctx = Context.ofFile (display path) (b.duration (b.after h (lengthOps o)))) :
    Changed b editors o path h ↔ s.changes ≠ 0 := by
  subst hctx
  rw [Ne, hs.changes, Changed, not_and_or]
  simp

/-- The operations on a file make of it what its session has. -/
theorem Logged.after_fileOps {ctx : Context} {s : Session Handle}
    (hs : Logged b editors o ctx h Field.all s) (path : FilePath) :
    b.after h (fileOps editors o ctx (gotten b editors o ctx h) path) = s.handle := by
  have hops : fileOps editors o ctx (gotten b editors o ctx h) path = .opened path ::
      (s.ops ++ saveOps editors o ctx (gotten b editors o ctx h) ++ [.close path]) := by
    rw [hs.ops]
    rfl
  have hsave : ∀ h', b.after h' (saveOps editors o ctx (gotten b editors o ctx h)) = h' := by
    intro h'
    unfold saveOps
    split <;> rfl
  rw [hops, Backend.after_cons, Backend.after_append, Backend.after_append, hsave]
  exact hs.handle.symm

/-- What is told when a session ends. -/
theorem told_finish (s : Session Handle) :
    told path (s.finish b o path w) = s.calls ++
      if s.changes = 0 then [.unchanged path]
      else if o.dryRun then []
      else match b.save s.handle w with
        | .error e => [.failure path e.message]
        | .ok _ => [.updating path] := by
  unfold told Session.finish
  split
  · simp
  split
  · simp
  rcases b.save s.handle w with e | w' <;> simp

/-- At a turn the changes of fields are told first, and then its ending. -/
theorem told_processFile (b : Backend World Handle) (editors : EditorSet) (o : RunOptions)
    (w : World) (path : FilePath) :
    ∃ changes closing, told path (processFile b editors o w path) =
        changes ++ Option.toList closing ∧
      (∀ c ∈ changes, c.tellsChange = true) ∧ Ending b editors o w path closing := by
  rcases hopen : b.openFile path w with e | h
  · refine ⟨[], _, ?_, by simp, .refused hopen⟩
    rw [processFile_refused hopen]
    rfl
  let ctx := Context.ofFile (display path) (b.duration (b.after h (lengthOps o)))
  let s := sessionAt b editors o ctx h Field.all
  have hlog : Logged b editors o ctx h Field.all s := Logged.sessionAt (List.append_nil _)
  have hrun : processFile b editors o w path = s.finish b o path w := processFile_opened hopen rfl
  have hcalls : ∀ c ∈ s.calls, c.tellsChange = true := by
    intro c hc
    rw [hlog.calls] at hc
    obtain ⟨f, -, hc⟩ := List.mem_flatMap.mp hc
    unfold fieldCalls at hc
    split at hc <;> simp at hc
    rw [hc]
    rfl
  have hchanged : Changed b editors o path h ↔ s.changes ≠ 0 := hlog.changed_iff rfl
  have hafter : b.after h (processFile b editors o w path).ops = s.handle := by
    rw [hrun, (hlog.finish path w).1, hlog.after_fileOps]
  rw [hrun, told_finish]
  refine ⟨s.calls, ?_⟩
  by_cases hzero : s.changes = 0
  · rw [if_pos hzero]
    exact ⟨_, rfl, hcalls, .unchanged hopen fun h => hchanged.mp h hzero⟩
  by_cases hdry : o.dryRun = true
  · rw [if_neg hzero, if_pos hdry]
    exact ⟨none, rfl, hcalls, .foretold hopen (hchanged.mpr hzero) hdry⟩
  rw [if_neg hzero, if_neg hdry]
  have hreal : o.dryRun = false := Bool.eq_false_iff.mpr hdry
  rcases hsave : b.save s.handle w with e | w'
  · exact ⟨_, rfl, hcalls, .unsaved hopen (hchanged.mpr hzero) hreal (hafter ▸ hsave)⟩
  · exact ⟨_, rfl, hcalls, .saved hopen (hchanged.mpr hzero) hreal (hafter ▸ hsave)⟩

/-- A file that is opened is saved exactly if it has something to save and the run is no dry run. -/
theorem save_mem_ops_iff (hopen : b.openFile path w = .ok h) :
    .save ∈ (processFile b editors o w path).ops ↔
      Changed b editors o path h ∧ o.dryRun = false := by
  let ctx := Context.ofFile (display path) (b.duration (b.after h (lengthOps o)))
  have hlog : Logged b editors o ctx h Field.all _ := Logged.sessionAt (List.append_nil _)
  have hrun : processFile b editors o w path =
      (sessionAt b editors o ctx h Field.all).finish b o path w := processFile_opened hopen rfl
  rw [hrun, (hlog.finish path w).1, save_mem_fileOps, hlog.saveOps_eq, hlog.changed_iff rfl]
  split <;> simp_all

namespace Ending

variable {closing : Option Report.Call}

theorem unchanged_iff (hend : Ending b editors o w path closing) :
    closing = some (.unchanged path) ↔
      ∃ h, b.openFile path w = .ok h ∧ ¬ Changed b editors o path h := by
  cases hend with
  | refused hopen => simp [hopen]
  | unchanged hopen hsame => simp [hopen, hsame]
  | foretold hopen hchanged => simp [hopen, hchanged]
  | unsaved hopen hchanged => simp [hopen, hchanged]
  | saved hopen hchanged => simp [hopen, hchanged]

theorem updating_iff (hend : Ending b editors o w path closing) :
    closing = some (.updating path) ↔ FileSaved b editors o w path := by
  unfold FileSaved
  cases hend with
  | refused hopen => simp [hopen]
  | unchanged hopen hsame => simp [hopen, save_mem_ops_iff hopen, hsame]
  | foretold hopen _ hdry => simp [hopen, save_mem_ops_iff hopen, hdry]
  | unsaved hopen _ _ hfail => simp [hopen, hfail]
  | saved hopen hchanged hdry hsave =>
    have hdue := (save_mem_ops_iff hopen).mpr ⟨hchanged, hdry⟩
    have hworld := ((processFile_cases editors o hopen).2.2 hdue).2
    rw [hsave] at hworld
    simp [hopen, hdue, hsave, hworld, Except.toOption]

theorem failure_iff (hend : Ending b editors o w path closing) :
    (∃ message, closing = some (.failure path message)) ↔ FileFails b editors o w path := by
  constructor
  · rintro ⟨message, rfl⟩
    cases hend with
    | refused hopen => exact .opening hopen
    | unsaved hopen hchanged hdry hfail =>
      exact .saving hopen ((save_mem_ops_iff hopen).mpr ⟨hchanged, hdry⟩) hfail
  · intro hfails
    cases hend with
    | refused hopen => exact ⟨_, rfl⟩
    | unsaved hopen hchanged hdry hfail => exact ⟨_, rfl⟩
    | unchanged hopen hsame =>
      rcases hfails with hrefused | ⟨hopen', hsave, -⟩
      · cases hopen.symm.trans hrefused
      · cases hopen.symm.trans hopen'
        exact absurd ((save_mem_ops_iff hopen).mp hsave).1 hsame
    | foretold hopen hchanged hdry =>
      rcases hfails with hrefused | ⟨hopen', hsave, -⟩
      · cases hopen.symm.trans hrefused
      · rw [((save_mem_ops_iff hopen').mp hsave).2] at hdry
        cases hdry
    | saved hopen hchanged hdry hsave =>
      rcases hfails with hrefused | ⟨hopen', -, hfail⟩
      · cases hopen.symm.trans hrefused
      · cases hopen.symm.trans hopen'
        cases hsave.symm.trans hfail

theorem eq_none_iff (hend : Ending b editors o w path closing) :
    closing = none ↔
      o.dryRun = true ∧ ∃ h, b.openFile path w = .ok h ∧ Changed b editors o path h := by
  cases hend with
  | refused hopen => simp [hopen]
  | unchanged hopen hsame => simp [hopen, hsame]
  | foretold hopen hchanged hdry => simp [hopen, hchanged, hdry]
  | unsaved hopen _ hdry => simp [hdry]
  | saved hopen _ hdry => simp [hdry]

end Ending

/-! ## All turns -/

variable {others : World → World} {paths : List FilePath}

/-- The turn of every path is accounted for. -/
theorem exists_accounted {t : Turn World} (ht : t ∈ turnsAmid b editors o others w paths) :
    ∃ changes closing, Accounted b editors o t changes closing := by
  obtain ⟨changes, closing, htold, hchanges, hend⟩ :=
    told_processFile b editors o t.before t.path
  refine ⟨changes, closing, ?_, hchanges, hend.unchanged_iff, hend.updating_iff,
    hend.failure_iff, hend.eq_none_iff⟩
  rw [Turn.calls, run_of_mem_turnsAmid ht, htold]

theorem isSome_failure?_iff {t : Turn World} (ht : t ∈ turnsAmid b editors o others w paths) :
    t.failure?.isSome ↔ FileFails b editors o t.before t.path := by
  rw [fileFails_iff, ← run_of_mem_turnsAmid ht, Turn.failure?]
  rcases t.run.outcome with e | status <;> simp

/-- A turn tells its failure once, if it fails. -/
theorem failedPaths_turn {t : Turn World} (ht : t ∈ turnsAmid b editors o others w paths) :
    t.calls.filterMap Report.Call.failedPath? =
      if t.failure?.isSome then [t.path] else [] := by
  obtain ⟨changes, closing, htold, hchanges, hend⟩ :=
    told_processFile b editors o t.before t.path
  have hnone : changes.filterMap Report.Call.failedPath? = [] := by
    rw [List.filterMap_eq_nil_iff]
    intro c hc
    have htells := hchanges c hc
    cases c <;> first | rfl | cases htells
  rw [Turn.calls, run_of_mem_turnsAmid ht, htold, List.filterMap_append, hnone, List.nil_append]
  by_cases hfails : FileFails b editors o t.before t.path
  · obtain ⟨message, rfl⟩ := hend.failure_iff.mpr hfails
    rw [if_pos ((isSome_failure?_iff ht).mpr hfails)]
    rfl
  · rw [if_neg (mt (isSome_failure?_iff ht).mp hfails)]
    cases hend with
    | refused hopen => exact absurd (.opening hopen) hfails
    | unsaved hopen hchanged hdry hfail =>
      exact absurd (.saving hopen ((save_mem_ops_iff hopen).mpr ⟨hchanged, hdry⟩) hfail) hfails
    | unchanged => rfl
    | foretold => rfl
    | saved => rfl

/-- The failures that a run tells are those of its turns, in order. -/
theorem failedPaths_run : (processFilesAmid b editors o others w paths).calls.filterMap
    Report.Call.failedPath? = ((turnsAmid b editors o others w paths).filter
      (·.failure?.isSome)).map Turn.path := by
  rw [(composed_turnsAmid w paths).calls, List.filterMap_flatMap]
  have hturns : ∀ ts : List (Turn World), (∀ t ∈ ts, t.calls.filterMap Report.Call.failedPath? =
      if t.failure?.isSome then [t.path] else []) →
      ts.flatMap (fun t => t.calls.filterMap Report.Call.failedPath?) =
        (ts.filter (·.failure?.isSome)).map Turn.path := by
    intro ts hts
    induction ts with
    | nil => rfl
    | cons t ts ih =>
      rw [List.flatMap_cons, hts t List.mem_cons_self,
        ih fun t ht => hts t (List.mem_cons_of_mem _ ht), List.filter_cons]
      split <;> rfl
  exact hturns _ fun t => failedPaths_turn

/-- The counts over some turns. -/
structure Balanced (s : Summary) (turns : List (Turn World)) : Prop where
  processed : s.processed + s.failed = turns.length
  updated : s.updated + s.unchanged = s.processed
  failed : s.failed = (turns.filter (·.failure?.isSome)).length

/-- One more turn. -/
theorem Balanced.count {s : Summary} {turns : List (Turn World)} (h : Balanced s turns)
    (t : Turn World) : Balanced (s.count t.run.outcome) (turns ++ [t]) := by
  obtain ⟨hprocessed, hupdated, hfailed⟩ := h
  rcases hrun : t.run.outcome with e | status
  · have hfails : t.failure?.isSome = true := by simp [Turn.failure?, hrun]
    constructor <;> simp [Summary.count, List.filter_append, hfails] <;> omega
  · have hfine : t.failure?.isSome = false := by simp [Turn.failure?, hrun]
    cases status <;> constructor <;> simp [Summary.count, List.filter_append, hfine] <;> omega

theorem balanced_foldl (turns : List (Turn World)) :
    Balanced ((turns.map (·.run.outcome)).foldl Summary.count {}) turns := by
  induction turns using List.reverseRecOn with
  | nil => exact ⟨rfl, rfl, rfl⟩
  | append_singleton turns t ih =>
    rw [List.map_append, List.foldl_append]
    exact ih.count t

end

/-- Every path has one turn, which is counted once and told of once, whatever others do to the store
in between. The changes of its fields are told first. They are followed by one call: that nothing
changed, that the file was saved, or that it could not be opened or saved; only on a dry run with
changes no call follows. The failures are told in the order of the paths. -/
theorem every_path_accounted (b : Backend World Handle) (editors : EditorSet) (o : RunOptions)
    (w : World) (paths : List FilePath) :
    processFiles b editors o w paths = processFilesAmid b editors o id w paths ∧
    ∀ others : World → World,
      let run := processFilesAmid b editors o others w paths
      let turns := turnsAmid b editors o others w paths
      turns.map Turn.path = paths ∧ run.calls = turns.flatMap Turn.calls ∧
      run.summary.processed + run.summary.failed = paths.length ∧
      run.summary.updated + run.summary.unchanged = run.summary.processed ∧
      run.summary.failed = (run.calls.filterMap Report.Call.failedPath?).length ∧
      run.calls.filterMap Report.Call.failedPath? =
        (turns.filter (·.failure?.isSome)).map Turn.path ∧
      (run.summary.hasFailures = true ↔ ∃ t ∈ turns, FileFails b editors o t.before t.path) ∧
      ∀ t ∈ turns, (t.failure?.isSome ↔ FileFails b editors o t.before t.path) ∧
        (∃ changes closing, Accounted b editors o t changes closing) ∧
        ∀ path path' message, .updating path ∈ t.calls → .failure path' message ∉ t.calls := by
  refine ⟨rfl, fun others => ?_⟩
  intro run turns
  have hpaths : turns.map Turn.path = paths := map_path_turnsAmid w paths
  have hcomposed : Composed run turns := composed_turnsAmid w paths
  have hfailures : run.calls.filterMap _ = _ := failedPaths_run
  have hbalanced : Balanced run.summary turns := hcomposed.summary ▸ balanced_foldl turns
  refine ⟨hpaths, hcomposed.calls, ?_, hbalanced.updated, ?_, hfailures, ?_, fun t ht =>
    ⟨isSome_failure?_iff ht, exists_accounted ht, ?_⟩⟩
  · rw [hbalanced.processed, ← hpaths, List.length_map]
  · rw [hfailures, List.length_map, hbalanced.failed]
  · rw [Summary.hasFailures, decide_eq_true_iff, hbalanced.failed, List.length_pos_iff_exists_mem]
    refine exists_congr fun t => ?_
    rw [List.mem_filter]
    exact and_congr_right fun ht => isSome_failure?_iff ht
  · obtain ⟨changes, closing, hacc⟩ := exists_accounted ht
    intro path path' message hupdating hfailure
    have hclosing : ∀ c ∈ t.calls, c.tellsChange = false → closing = some c := by
      intro c hc htells
      rw [hacc.calls, List.mem_append, Option.mem_toList] at hc
      refine hc.resolve_left fun hc => ?_
      rw [hacc.changes c hc] at htells
      cases htells
    cases (hclosing _ hupdating rfl).symm.trans (hclosing _ hfailure rfl)

/-- A path that comes three times, in a store that counts its turns: it cannot be opened, then not
be saved, and at last it is saved. -/
theorem every_path_accounted_retried :
    let b : Backend Nat Nat :=
      { openFile := fun _ n => if n = 1 then .error .notAFile else .ok n
        get := fun _ _ => ['o'], set := fun h _ _ => h, duration := fun _ => .zero
        updateLength := id, save := fun h w => if h = 2 then .error .noAudioTrack else .ok w }
    let editors : EditorSet := ⟨[⟨.genre, [.set ['n']]⟩]⟩
    let run := processFilesAmid b editors {} Nat.succ 0 [[97], [97], [97]]
    let turns := turnsAmid b editors {} Nat.succ 0 [[97], [97], [97]]
    run.summary.processed + run.summary.failed = 3 ∧ run.summary.failed = 2 ∧
      ∃ t ∈ turns, .updating [97] ∈ t.calls ∧ ∀ message, .failure [97] message ∉ t.calls := by
  intro b editors run turns
  obtain ⟨-, -, hcount, -, hfailed, -, -, hturns⟩ :=
    (every_path_accounted b editors {} 0 [[97], [97], [97]]).2 Nat.succ
  let last : Turn Nat := ⟨[97], 3, processFile b editors {} 3 [97]⟩
  have hmem : last ∈ turns := .tail _ (.tail _ (.head _))
  have hupdating : .updating [97] ∈ last.calls := by decide +kernel
  exact ⟨hcount, hfailed.trans (by decide +kernel), last, hmem, hupdating,
    fun message => (hturns last hmem).2.2 [97] [97] message hupdating⟩

end TagEdit
