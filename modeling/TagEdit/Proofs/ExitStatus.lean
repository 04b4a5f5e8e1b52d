import TagEdit.Program
import TagEdit.Proofs.Compilation
import TagEdit.Proofs.Trace

/-!
# The exit status

What ends a run, and what it has done by then. A path fails if it cannot be opened, or not be saved
although that is due; both are told from the answers of the store at the turn of the path. Up to
the first file nothing is read but the arguments, and only saves change files.
-/

namespace TagEdit

open TagEdit.Path

section

variable {World Handle : Type}

/-! ## One file -/

/-- A path cannot be opened, or what was done to its file cannot be saved. -/
inductive FileFails (b : Backend World Handle) (editors : EditorSet) (o : RunOptions) (w : World)
    (path : FilePath) : Prop where
  | opening {e : TagError} (hopen : b.openFile path w = .error e)
  | saving {h : Handle} {e : TagError} (hopen : b.openFile path w = .ok h)
      (hsave : .save ∈ (processFile b editors o w path).ops)
      (hfail : b.save (b.after h (processFile b editors o w path).ops) w = .error e)

/-- What was done to the file of a path is saved. -/
def FileSaved (b : Backend World Handle) (editors : EditorSet) (o : RunOptions) (w : World)
    (path : FilePath) : Prop :=
  ∃ h, b.openFile path w = .ok h ∧ .save ∈ (processFile b editors o w path).ops ∧
    b.save (b.after h (processFile b editors o w path).ops) w =
      .ok (processFile b editors o w path).world

/-- An open file has a change: its length is to be stored, or a change of a field is told. -/
def HasChange (o : RunOptions) (run : FileRun World) : Prop :=
  o.updateLength = true ∨ ∃ f old new, .fieldChange f old new ∈ run.calls

variable {b : Backend World Handle} {editors : EditorSet} {o : RunOptions} {ctx : Context}
  {h : Handle}

/-- The calls of a session tell the fields that its editors change. -/
theorem Logged.fieldChange_mem_iff {s : Session Handle} (hs : Logged b editors o ctx h Field.all s)
    (path : FilePath) (w : World) :
    (∃ f old new, .fieldChange f old new ∈ (s.finish b o path w).calls) ↔
      ∃ f ∈ Field.all,
        made editors ctx (gotten b editors o ctx h) f ≠ gotten b editors o ctx h f := by
  have hfinish : ∀ f old new, .fieldChange f old new ∈ (s.finish b o path w).calls ↔
      .fieldChange f old new ∈ s.calls := by
    intro f old new
    unfold Session.finish
    split
    · simp
    split
    · rfl
    split <;> simp
  simp only [hfinish, hs.calls, List.mem_flatMap]
  constructor
  · rintro ⟨f, old, new, g, hg, hmem⟩
    refine ⟨g, hg, fun hsame => ?_⟩
    rw [fieldCalls, if_neg (not_not_intro hsame)] at hmem
    cases hmem
  · rintro ⟨f, hf, hchange⟩
    refine ⟨f, gotten b editors o ctx h f, made editors ctx (gotten b editors o ctx h) f, f, hf, ?_⟩
    rw [fieldCalls, if_pos hchange]
    exact List.mem_singleton.mpr rfl

/-- How a session ends is told by its operations and by what the store makes of a save. -/
theorem Logged.outcome {s : Session Handle} (hs : Logged b editors o ctx h Field.all s)
    (path : FilePath) (w : World) :
    let ops := fileOps editors o ctx (gotten b editors o ctx h) path
    (.save ∉ ops → ∃ status, (s.finish b o path w).outcome = .ok status) ∧
    (.save ∈ ops → (s.finish b o path w).outcome =
      (b.save (b.after h ops) w).map fun _ => .updated) := by
  intro ops
  have hmem : .save ∈ ops ↔ s.changes ≠ 0 ∧ o.dryRun = false := by
    rw [save_mem_fileOps, hs.saveOps_eq]
    split <;> simp_all
  unfold Session.finish
  by_cases hzero : s.changes = 0
  · rw [if_pos hzero]
    exact ⟨fun _ => ⟨_, rfl⟩, fun hsave => absurd hzero (hmem.mp hsave).1⟩
  by_cases hdry : o.dryRun = true
  · rw [if_neg hzero, if_pos hdry]
    refine ⟨fun _ => ⟨_, rfl⟩, fun hsave => ?_⟩
    rw [(hmem.mp hsave).2] at hdry
    cases hdry
  · have hdue : .save ∈ ops := hmem.mpr ⟨hzero, Bool.eq_false_iff.mpr hdry⟩
    have hafter : b.after h ops = s.handle := by
      have hops : ops = .opened path :: (s.ops ++ [.save] ++ [.close path]) := by
        rw [hs.ops, ← (save_mem_fileOps path).mp hdue]
        rfl
      simp [hops, hs.handle, Backend.perform]
    rw [if_neg hzero, if_neg hdry, hafter]
    refine ⟨fun hnot => absurd hdue hnot, fun _ => ?_⟩
    rcases b.save s.handle w with e | w' <;> rfl

/-- What becomes of a file that is opened: it is saved if it has a change and the run is no dry run,
and otherwise it is as it was. -/
theorem processFile_cases (editors : EditorSet) (o : RunOptions) {w : World} {path : FilePath}
    (hopen : b.openFile path w = .ok h) :
    let run := processFile b editors o w path
    (.save ∈ run.ops ↔ o.dryRun = false ∧ HasChange o run) ∧
    (.save ∉ run.ops → (∃ status, run.outcome = .ok status) ∧ run.world = w) ∧
    (.save ∈ run.ops → run.outcome = (b.save (b.after h run.ops) w).map (fun _ => .updated) ∧
      run.world = (b.save (b.after h run.ops) w).toOption.getD w) := by
  intro run
  let ctx := Context.ofFile (display path) (b.duration (b.after h (lengthOps o)))
  have hlog : Logged b editors o ctx h Field.all _ := Logged.sessionAt (List.append_nil _)
  have hrun : run = (sessionAt b editors o ctx h Field.all).finish b o path w :=
    processFile_opened hopen rfl
  obtain ⟨hops, hworld⟩ := hlog.finish path w
  obtain ⟨hkept, hsaved⟩ := hlog.outcome path w
  have hchange := hlog.fieldChange_mem_iff path w
  rw [← hrun] at hops hworld hkept hsaved hchange
  refine ⟨?_, ?_, ?_⟩
  · rw [hops, save_mem_fileOps, HasChange, hchange, saveOps]
    split <;> simp_all
  · rw [hops]
    refine fun hsave => ⟨hkept hsave, ?_⟩
    rw [hworld, Backend.stored, if_neg hsave]
  · rw [hops]
    refine fun hsave => ⟨hsaved hsave, ?_⟩
    rw [hworld, Backend.stored, if_pos hsave]

/-- A path fails exactly if its run ends with an error. -/
theorem fileFails_iff {w : World} {path : FilePath} :
    FileFails b editors o w path ↔ ∃ e, (processFile b editors o w path).outcome = .error e := by
  rcases hopen : b.openFile path w with e | h
  · rw [processFile_refused hopen]
    exact ⟨fun _ => ⟨e, rfl⟩, fun _ => .opening hopen⟩
  · obtain ⟨-, hkept, hsaved⟩ := processFile_cases editors o hopen
    constructor
    · rintro (hrefused | ⟨hopen', hsave, hfail⟩)
      · rw [hopen] at hrefused
        cases hrefused
      · cases hopen.symm.trans hopen'
        rw [(hsaved hsave).1, hfail]
        exact ⟨_, rfl⟩
    · rintro ⟨e, he⟩
      by_cases hsave : .save ∈ (processFile b editors o w path).ops
      · rcases hresult : b.save (b.after h (processFile b editors o w path).ops) w with e' | w'
        · exact .saving hopen hsave hresult
        · rw [(hsaved hsave).1, hresult] at he
          cases he
      · obtain ⟨status, hstatus⟩ := (hkept hsave).1
        rw [hstatus] at he
        cases he

/-- If a path does not fail, a file that has a change is saved. -/
theorem fileSaved_of_hasChange {w : World} {path : FilePath}
    (hfine : ¬ FileFails b editors o w path) (hdry : o.dryRun = false)
    (hchange : HasChange o (processFile b editors o w path)) :
    FileSaved b editors o w path := by
  rcases hopen : b.openFile path w with e | h
  · exact absurd (.opening hopen) hfine
  · obtain ⟨hdue, -, hsaved⟩ := processFile_cases editors o hopen
    have hsave := hdue.mpr ⟨hdry, hchange⟩
    refine ⟨h, hopen, hsave, ?_⟩
    rcases hresult : b.save (b.after h (processFile b editors o w path).ops) w with e | w'
    · exact absurd (.saving hopen hsave hresult) hfine
    · rw [(hsaved hsave).2, hresult]
      rfl

/-- On a dry run the store stays as it is. -/
theorem processFile_world_of_dryRun (hdry : o.dryRun = true) (w : World) (path : FilePath) :
    (processFile b editors o w path).world = w := by
  rcases hopen : b.openFile path w with e | h
  · rw [processFile_refused hopen]
  · obtain ⟨hdue, hkept, -⟩ := processFile_cases editors o hopen
    refine (hkept fun hsave => ?_).2
    rw [(hdue.mp hsave).1] at hdry
    cases hdry

/-! ## All files -/

theorem processFiles_append (w : World) (paths : List FilePath) (path : FilePath) :
    processFiles b editors o w (paths ++ [path]) =
      (processFiles b editors o w paths).add path
        (processFile b editors o (processFiles b editors o w paths).world path) := by
  unfold processFiles
  rw [List.foldl_append]
  rfl

theorem processFiles_world_of_dryRun (hdry : o.dryRun = true) (w : World)
    (paths : List FilePath) : (processFiles b editors o w paths).world = w := by
  induction paths using List.reverseRecOn with
  | nil => rfl
  | append_singleton paths path ih =>
    rw [processFiles_append]
    exact (processFile_world_of_dryRun hdry _ path).trans ih

/-- The places of a list with one more item are those of the list and the new one. -/
theorem exists_place_concat {α : Type} {P : List α → α → Prop} {xs : List α} {x : α} :
    (∃ before y after, xs ++ [x] = before ++ y :: after ∧ P before y) ↔
      (∃ before y after, xs = before ++ y :: after ∧ P before y) ∨ P xs x := by
  constructor
  · rintro ⟨before, y, after, hsplit, hy⟩
    rcases List.eq_nil_or_concat after with rfl | ⟨after, last, rfl⟩
    · obtain ⟨rfl, hxy⟩ := List.append_inj' hsplit rfl
      cases hxy
      exact .inr hy
    · rw [List.concat_eq_append, ← List.cons_append, ← List.append_assoc] at hsplit
      exact .inl ⟨before, y, after, (List.append_inj' hsplit rfl).1, hy⟩
  · rintro (⟨before, y, after, rfl, hy⟩ | hx)
    · exact ⟨before, y, after ++ [x], by simp, hy⟩
    · exact ⟨xs, x, [], rfl, hx⟩

/-- There are failures exactly if a path fails at its turn. -/
theorem hasFailures_iff {w : World} {paths : List FilePath} :
    (processFiles b editors o w paths).summary.hasFailures = true ↔
      ∃ done path rest, paths = done ++ path :: rest ∧
        FileFails b editors o (processFiles b editors o w done).world path := by
  induction paths using List.reverseRecOn with
  | nil => simp [processFiles, Summary.hasFailures]
  | append_singleton paths path ih =>
    rw [exists_place_concat, ← ih, processFiles_append, fileFails_iff]
    rcases hrun : (processFile b editors o (processFiles b editors o w paths).world path).outcome
      with e | status
    · simp [BatchRun.add, hrun, Summary.count, Summary.hasFailures]
    · cases status <;> simp [BatchRun.add, hrun, Summary.count, Summary.hasFailures]

end

/-! ## The program -/

/-- The default pattern, read. -/
def mp3Pattern : Glob.Pattern :=
  ⟨false, [.wild (.anyChars :: ".mp3".toList.map .char)], false⟩

theorem parse_defaultPattern : Glob.Pattern.parse Glob.defaultPattern = .ok mp3Pattern := by
  decide +kernel

/-- The names in the working directory are texts. -/
def Disk.NamesAreTexts (d : Disk) : Prop :=
  ∀ loc, d.location? [Symbols.dot] = some loc → ∀ name ∈ d.names loc,
    ∃ t, Utf8.decode? name = some t

theorem breaksDown_iff {d : Disk} {files : List FilePath} :
    Glob.breaksDown d files = true ↔ files = [] ∧ ¬ d.NamesAreTexts := by
  simp [Glob.breaksDown, Disk.NamesAreTexts, Option.any_eq_true, Option.eq_none_iff_forall_ne_some]

/-- A script among the fragments is refused. -/
def CommandLine.Refused (c : CommandLine) : Prop :=
  ∃ f source e, .expression source ∈ c.registry.fragments f ∧ Script.parse source = .error e

/-- The paths that are processed: those that are given, or else the files that the default pattern
matches. -/
def CommandLine.listed (c : CommandLine) (d : Disk) : List FilePath :=
  if c.files = [] then mp3Pattern.files d else c.files

theorem refused_iff {c : CommandLine} : c.Refused ↔ ∃ e, c.registry.compile = .error e := by
  constructor
  · rintro ⟨f, source, e, hmem, hparse⟩
    rcases hcompile : c.registry.compile with err | editors
    · exact ⟨err, rfl⟩
    · obtain ⟨s, hs⟩ := Registry.exists_compile_iff.mp ⟨editors, hcompile⟩ f _ hmem
      simp [Fragment.step, hparse, Except.map] at hs
  · rintro ⟨err, herr⟩
    by_contra hnot
    obtain ⟨editors, hcompile⟩ := Registry.exists_compile_iff.mpr fun f a hmem =>
      Fragment.exists_step_iff.mpr fun source ha => by
        subst ha
        rcases hparse : Script.parse source with e | p
        · exact absurd ⟨f, source, e, hmem, hparse⟩ hnot
        · exact ⟨p, rfl⟩
    rw [herr] at hcompile
    cases hcompile

theorem exists_editors {c : CommandLine} (h : ¬ c.Refused) :
    ∃ editors, c.registry.compile = .ok editors := by
  rcases hcompile : c.registry.compile with e | editors
  · exact absurd (refused_iff.mpr ⟨e, hcompile⟩) h
  · exact ⟨editors, rfl⟩

theorem resolveInputs_eq (c : CommandLine) (d : Disk) :
    Glob.resolveInputs d c.files =
      if c.listed d = [] then .error (.noMatch Glob.defaultPattern) else .ok (c.listed d) := by
  unfold Glob.resolveInputs CommandLine.listed
  rcases c.files with _ | ⟨p, ps⟩
  · simp only [Glob.expand, parse_defaultPattern, if_true]
    rcases mp3Pattern.files d with _ | ⟨p, ps⟩ <;> rfl
  · rfl

/-- A path fails at its turn. -/
def CommandLine.SomeFails (c : CommandLine) (editors : EditorSet) (d : Disk) : Prop :=
  ∃ done path rest, c.listed d = done ++ path :: rest ∧
    FileFails AudioFile.backend editors c.runOptions
      (processFiles AudioFile.backend editors c.runOptions d done).world path

section

variable {args : List Bytes} {c : CommandLine}

theorem runProgram_of_refused (hparse : CommandLine.parse args = .ok c) (h : c.Refused) :
    ∃ err, ∀ d, runProgram d args = { disk := d, status := .fatal, err } := by
  obtain ⟨e, he⟩ := refused_iff.mp h
  refine ⟨programLine (e.messageWith regexReport), fun d => ?_⟩
  simp only [runProgram, hparse, runLine, he]
  rfl

theorem selfTest_eq : selfTest = true := by decide +kernel

theorem runProgram_of_check (hparse : CommandLine.parse args = .ok c) (h : ¬ c.Refused)
    (hcheck : c.check = true) :
    ∃ out, ∀ d, runProgram d args = { disk := d, status := .success, out } := by
  obtain ⟨editors, hcompile⟩ := exists_editors h
  refine ⟨if c.quiet then [] else programLine "dependencies ok".toList, fun d => ?_⟩
  simp only [runProgram, hparse, runLine, hcompile, hcheck, if_true, checkOutcome, selfTest_eq]

/-- A run that is no check looks for its files, and edits them if there are any. -/
theorem runProgram_of_editors (hparse : CommandLine.parse args = .ok c) {editors : EditorSet}
    (hcompile : c.registry.compile = .ok editors) (hcheck : c.check = false) (d : Disk) :
    let r := runProgram d args
    let batch := processFiles AudioFile.backend editors c.runOptions d (c.listed d)
    (c.files = [] ∧ ¬ d.NamesAreTexts → r.status = .brokenDown ∧ r.disk = d) ∧
    (¬ (c.files = [] ∧ ¬ d.NamesAreTexts) →
      (c.listed d = [] → r.status = .fatal ∧ r.disk = d) ∧
      (c.listed d ≠ [] → r.disk = batch.world ∧
        r.status = if batch.summary.hasFailures then .fileFailed else .success)) := by
  intro r batch
  have hr : r = runLine d c := by simp only [r, runProgram, hparse]
  refine ⟨fun hbreaks => ?_, fun hsound => ⟨fun hnone => ?_, fun hsome => ?_⟩⟩
  · have hb := breaksDown_iff.mpr hbreaks
    rw [hr]
    simp only [runLine, hcompile, hcheck, hb, Bool.false_eq_true, if_false, if_true]
    exact ⟨rfl, rfl⟩
  · have hb := mt breaksDown_iff.mp hsound
    have hinputs := resolveInputs_eq c d
    rw [if_pos hnone] at hinputs
    rw [hr]
    simp only [runLine, hcompile, hcheck, hb, hinputs, Bool.false_eq_true, if_false]
    exact ⟨rfl, rfl⟩
  · have hb := mt breaksDown_iff.mp hsound
    have hinputs := resolveInputs_eq c d
    rw [if_neg hsome] at hinputs
    rw [hr]
    simp only [runLine, hcompile, hcheck, hb, hinputs, Bool.false_eq_true, if_false]
    exact ⟨rfl, rfl⟩

/-- A run that is fatal or breaks down changes nothing, and neither does a check or a dry run. -/
theorem runProgram_disk (hparse : CommandLine.parse args = .ok c) {d : Disk}
    (h : (runProgram d args).status.code = 2 ∨ (runProgram d args).status.code = 101 ∨
      c.check = true ∨ c.dryRun = true) : (runProgram d args).disk = d := by
  by_cases hrefused : c.Refused
  · obtain ⟨err, herr⟩ := runProgram_of_refused hparse hrefused
    rw [herr]
  by_cases hcheck : c.check = true
  · obtain ⟨out, hout⟩ := runProgram_of_check hparse hrefused hcheck
    rw [hout]
  obtain ⟨editors, hcompile⟩ := exists_editors hrefused
  obtain ⟨hbroken, hsound⟩ := runProgram_of_editors hparse hcompile (Bool.eq_false_iff.mpr hcheck) d
  by_cases hbreaks : c.files = [] ∧ ¬ d.NamesAreTexts
  · exact (hbroken hbreaks).2
  by_cases hnone : c.listed d = []
  · exact ((hsound hbreaks).1 hnone).2
  -- files are processed: the status is neither of those, so that the run is dry
  obtain ⟨hdisk, hstatus⟩ := (hsound hbreaks).2 hnone
  rw [hdisk]
  refine processFiles_world_of_dryRun (o := c.runOptions) ?_ d (c.listed d)
  rw [hstatus] at h
  rcases h with h | h | h | h
  · split at h <;> cases h
  · split at h <;> cases h
  · exact absurd h hcheck
  · exact h

/-- How a run with accepted arguments ends. A script that is refused ends it, and then a check,
whatever is on disk. Otherwise it breaks down if it has to look for files among names that are no
texts; it is fatal if there are no files; and the status tells whether a path failed. Nothing is
changed by a run that is fatal or breaks down, nor by a check or a dry run. If no path fails, every
file that has a change is saved, except on a dry run. -/
theorem status_tells_outcome (hparse : CommandLine.parse args = .ok c) (d : Disk) :
    let r := runProgram d args
    (c.Refused → ∃ err, ∀ d', runProgram d' args = { disk := d', status := .fatal, err }) ∧
    (¬ c.Refused → c.check = true →
      ∃ out, ∀ d', runProgram d' args = { disk := d', status := .success, out }) ∧
    (¬ c.Refused → c.check = false →
      (c.files = [] ∧ ¬ d.NamesAreTexts → r.status.code = 101) ∧
      (¬ (c.files = [] ∧ ¬ d.NamesAreTexts) →
        (c.listed d = [] → r.status.code = 2) ∧
        (c.listed d ≠ [] → ∃ editors, c.registry.compile = .ok editors ∧
          (c.SomeFails editors d → r.status.code = 1) ∧
          (¬ c.SomeFails editors d → r.status.code = 0 ∧
            (c.dryRun = false → ∀ done path rest, c.listed d = done ++ path :: rest →
              let turn := (processFiles AudioFile.backend editors c.runOptions d done).world
              HasChange c.runOptions
                (processFile AudioFile.backend editors c.runOptions turn path) →
              FileSaved AudioFile.backend editors c.runOptions turn path))))) ∧
    (r.status.code = 2 ∨ r.status.code = 101 ∨ c.check = true ∨ c.dryRun = true → r.disk = d) := by
  intro r
  refine ⟨runProgram_of_refused hparse, runProgram_of_check hparse, fun hrefused hcheck => ?_,
    runProgram_disk hparse⟩
  obtain ⟨editors, hcompile⟩ := exists_editors hrefused
  obtain ⟨hbroken, hsound⟩ := runProgram_of_editors hparse hcompile hcheck d
  refine ⟨fun h => ?_, fun h => ⟨fun hnone => ?_, fun hsome => ⟨editors, hcompile,
    fun hfails => ?_, fun hfine => ⟨?_, ?_⟩⟩⟩⟩
  · rw [(hbroken h).1]
    rfl
  · rw [((hsound h).1 hnone).1]
    rfl
  · rw [((hsound h).2 hsome).2, if_pos (hasFailures_iff.mpr hfails)]
    rfl
  · rw [((hsound h).2 hsome).2, if_neg (mt hasFailures_iff.mp hfine)]
    rfl
  · intro hdry done path rest hlisted turn hchange
    exact fileSaved_of_hasChange (fun hfails => hfine ⟨done, path, rest, hlisted, hfails⟩) hdry
      hchange

/-- A file is listed that does not exist: the status is one. -/
theorem status_tells_outcome_missing :
    let d : Disk := .within [[119]]
    CommandLine.parse [[97]] = .ok { files := [[97]] } ∧ (runProgram d [[97]]).status.code = 1 := by
  intro d
  let c : CommandLine := { files := [[97]] }
  have hparse : CommandLine.parse [[97]] = .ok c := rfl
  have hregistry : c.registry = .empty := by decide +kernel
  have hrefused : ¬ c.Refused := by
    rintro ⟨f, source, e, hmem, -⟩
    rw [hregistry] at hmem
    cases hmem
  have hopen : AudioFile.backend.openFile [97] d = .error (.io PathFault.notFound.message) := rfl
  obtain ⟨editors, -, hfails, -⟩ := (((status_tells_outcome hparse d).2.2.1 hrefused rfl).2
    (fun h => by cases h.1)).2 (by simp [CommandLine.listed, c])
  exact ⟨hparse, hfails ⟨[], [97], [], rfl, .opening hopen⟩⟩

/-- A run without files in a directory with nothing but a name that is no text: there is no file to
process, but the status is not that of a fatal run. -/
theorem status_of_undecodable_name :
    let d := (Disk.within [[119]]).put [[119], [0xFF]] (.file [])
    CommandLine.parse [] = .ok {} ∧ ({} : CommandLine).listed d = [] ∧
      (runProgram d []).status.code = 101 := by
  exact ⟨rfl, by decide +kernel, by decide +kernel⟩

end

end TagEdit
