import Mathlib.Data.List.Induction
import TagEdit.Batch

/-!
# Operations of a run

`Segment` says which operations belong to one file and `Trace` that those of a run are the
segments of its paths in order. Both are told from the answers of the store alone: whether it
opens a file, the texts it gives and what it makes of a save. `Hold.after` watches over the
order of operations: one file at a time, released before the next one, saved at most once.
-/

namespace TagEdit

open TagEdit.Path

variable {World Handle : Type}

/-! ## Replaying operations -/

namespace Backend

variable (b : Backend World Handle)

/-- What an operation makes of an open file. -/
def perform (h : Handle) : Op → Handle
  | .updateLength => b.updateLength h
  | .set f value => b.set h f value
  | _ => h

/-- What operations in order make of an open file. -/
def after (h : Handle) (ops : List Op) : Handle := ops.foldl b.perform h

/-- What a store holds after the operations on a file. A save that fails stores nothing. -/
def stored (h : Handle) (w : World) (ops : List Op) : World :=
  if .save ∈ ops then (b.save (b.after h ops) w).toOption.getD w else w

@[simp] theorem after_nil (h : Handle) : b.after h [] = h := rfl

@[simp] theorem after_cons (h : Handle) (op : Op) (ops : List Op) :
    b.after h (op :: ops) = b.after (b.perform h op) ops := rfl

@[simp] theorem after_append (h : Handle) (ops ops' : List Op) :
    b.after h (ops ++ ops') = b.after (b.after h ops) ops' := List.foldl_append

end Backend

/-! ## The operations of one file -/

section

variable (editors : EditorSet) (o : RunOptions) (ctx : Context) (got : Field → Text)

/-- What the editor of a field makes of the text that was got. -/
def made (f : Field) : Text := (editors.get f).apply ctx (got f)

/-- The operation before the fields. -/
def lengthOps : List Op := if o.updateLength && !o.dryRun then [.updateLength] else []

/-- The operations on one field. -/
def fieldOps (f : Field) : List Op :=
  if made editors ctx got f ≠ got f ∧ o.dryRun = false then
    [.get f, .set f (made editors ctx got f)]
  else [.get f]

/-- The operation behind the fields. -/
def saveOps : List Op :=
  if o.dryRun = false ∧
      (o.updateLength = true ∨ ∃ f ∈ Field.all, made editors ctx got f ≠ got f) then [.save]
  else []

/-- The operations on a file from its opening to its release. -/
def fileOps (path : FilePath) : List Op :=
  .opened path :: (lengthOps o ++ Field.all.flatMap (fieldOps editors o ctx got) ++
    saveOps editors o ctx got ++ [.close path])

/-- What is told of the edit of one field. -/
def fieldCalls (f : Field) : List Report.Call :=
  if made editors ctx got f ≠ got f then [.fieldChange f (got f) (made editors ctx got f)] else []

end

/-- The operations on the file of a path, and the store behind them. The file is opened in a given
store, and `got` are the texts that it gives when it is asked for them. -/
inductive Segment (b : Backend World Handle) (editors : EditorSet) (o : RunOptions)
    (path : FilePath) (w : World) : List Op → World → Prop where
  | refused {e : TagError} (hopen : b.openFile path w = .error e) :
      Segment b editors o path w [] w
  | edited {h : Handle} {got : Field → Text} {ctx : Context} {ops : List Op}
      (hopen : b.openFile path w = .ok h)
      (hctx : ctx = Context.ofFile (display path) (b.duration (b.after h (lengthOps o))))
      (hops : ops = fileOps editors o ctx got path)
      (hgot : ∀ f, got f = b.get (b.after h (ops.takeWhile (· != .get f))) f) :
      Segment b editors o path w ops (b.stored h w ops)

/-- The operations on the files of some paths in order, and the store behind them. Before each
path the store is changed by others. -/
inductive Trace (b : Backend World Handle) (editors : EditorSet) (o : RunOptions)
    (others : World → World) : World → List FilePath → List Op → World → Prop where
  | nil (w : World) : Trace b editors o others w [] [] w
  | cons {w w' w'' : World} {path : FilePath} {paths : List FilePath} {ops ops' : List Op} :
      Segment b editors o path (others w) ops w' → Trace b editors o others w' paths ops' w'' →
      Trace b editors o others w (path :: paths) (ops ++ ops') w''

/-- Runs all editors on every path in order, while others change the store before each path. In a
store that counts its turns, every turn has answers of its own. -/
def processFilesAmid (b : Backend World Handle) (editors : EditorSet) (o : RunOptions)
    (others : World → World) (w : World) (paths : List FilePath) : BatchRun World :=
  paths.foldl (fun r p => r.add p (processFile b editors o (others r.world) p)) { world := w }

/-! ## Holding files -/

/-- Which file is open, and whether it was saved. -/
inductive Hold where
  | released
  | held (path : FilePath) (saved : Bool)
  deriving DecidableEq, Repr

/-- An operation changes an open file that was not saved yet. Only a file that is open can be
released, and only when none is open another one is opened. -/
def Hold.after : Hold → Op → Option Hold
  | .released, .opened p => some (.held p false)
  | .held p _, .close q => if q = p then some .released else none
  | .held p false, .save => some (.held p true)
  | .held p false, .get _ => some (.held p false)
  | .held p false, .set _ _ => some (.held p false)
  | .held p false, .updateLength => some (.held p false)
  | _, _ => none

/-- Whether an operation changes an open file or the store. -/
def Op.writes : Op → Bool
  | .updateLength => true
  | .set _ _ => true
  | .save => true
  | _ => false

/-! ## Sessions -/

section

variable (b : Backend World Handle) (editors : EditorSet) (o : RunOptions) (ctx : Context)
  (h : Handle)

/-- The session of an open file after the editors of some fields. -/
def sessionAt (done : List Field) : Session Handle :=
  done.foldl (Session.edit b editors o ctx) (Session.start b o h)

/-- The text that is got for a field, at its turn. -/
def gotten (f : Field) : Text :=
  b.get (sessionAt b editors o ctx h (Field.all.takeWhile (· != f))).handle f

/-- A session tells all that was done in it. -/
structure Logged (done : List Field) (s : Session Handle) : Prop where
  ops : s.ops = lengthOps o ++ done.flatMap (fieldOps editors o ctx (gotten b editors o ctx h))
  calls : s.calls = done.flatMap (fieldCalls editors ctx (gotten b editors o ctx h))
  changes : s.changes = 0 ↔ lengthOps o = [] ∧
    ∀ f ∈ done, made editors ctx (gotten b editors o ctx h) f = gotten b editors o ctx h f
  handle : s.handle = b.after h s.ops

end

theorem takeWhile_of_all {done rest : List Field} {f : Field} (h : done ++ f :: rest = Field.all) :
    Field.all.takeWhile (· != f) = done := by
  have hnodup : (done ++ f :: rest).Nodup := h ▸ Field.all_nodup
  have hf : ∀ g ∈ done, (g != f) = true := fun g hg =>
    bne_iff_ne.mpr fun hgf => (List.nodup_append.mp hnodup).2.2 g hg f List.mem_cons_self hgf
  rw [← h, List.takeWhile_append_of_pos hf, List.takeWhile_cons_of_neg (by simp),
    List.append_nil]

section

variable {b : Backend World Handle} {editors : EditorSet} {o : RunOptions} {ctx : Context}
  {h : Handle}

theorem start_handle : (Session.start b o h).handle = b.after h (lengthOps o) := by
  unfold Session.start lengthOps
  split <;> rfl

namespace Logged

theorem start : Logged b editors o ctx h [] (Session.start b o h) := by
  unfold Session.start
  split
  · rename_i hlength
    exact ⟨by simp [lengthOps, hlength], rfl, by simp [lengthOps, hlength], rfl⟩
  · rename_i hlength
    exact ⟨by simp [lengthOps, hlength], rfl, by simp [lengthOps, hlength], rfl⟩

/-- The editor of one more field. -/
theorem edit {done : List Field} {s : Session Handle} (hs : Logged b editors o ctx h done s)
    {f : Field} (hgot : b.get s.handle f = gotten b editors o ctx h f) :
    Logged b editors o ctx h (done ++ [f]) (s.edit b editors o ctx f) := by
  have hmade : (editors.get f).apply ctx (gotten b editors o ctx h f) =
      made editors ctx (gotten b editors o ctx h) f := rfl
  unfold Session.edit
  simp only [hgot, hmade]
  by_cases hsame : made editors ctx (gotten b editors o ctx h) f = gotten b editors o ctx h f
  · rw [if_pos hsame]
    refine ⟨?_, ?_, ?_, ?_⟩
    · simp [hs.ops, fieldOps, hsame]
    · simp [hs.calls, fieldCalls, hsame]
    · simp [hs.changes, hsame, or_imp, forall_and]
    · simp [hs.handle, Backend.perform]
  · rw [if_neg hsame]
    refine ⟨?_, ?_, ?_, ?_⟩
    · by_cases hdry : o.dryRun = true <;> simp [hs.ops, fieldOps, hsame, hdry]
    · simp [hs.calls, fieldCalls, hsame]
    · simp [hsame, or_imp, forall_and]
    · by_cases hdry : o.dryRun = true <;> simp [hs.handle, hdry, Backend.perform]

/-- The session after the editors of the fields up to any place. -/
theorem sessionAt {done rest : List Field} (hall : done ++ rest = Field.all) :
    Logged b editors o ctx h done (sessionAt b editors o ctx h done) := by
  induction done using List.reverseRecOn generalizing rest with
  | nil => exact start
  | append_singleton done f ih =>
    rw [List.append_assoc, List.singleton_append] at hall
    have hstep := (ih hall).edit (f := f) (by rw [gotten, takeWhile_of_all hall])
    rwa [TagEdit.sessionAt, List.foldl_append]

end Logged

/-! ## One file -/

/-- No text is got twice: what comes before a field's turn are the operations on the fields before
it. -/
theorem takeWhile_fileOps {got : Field → Text} {done rest : List Field} {f : Field}
    (hall : done ++ f :: rest = Field.all) (path : FilePath) :
    (fileOps editors o ctx got path).takeWhile (· != .get f) =
      .opened path :: (lengthOps o ++ done.flatMap (fieldOps editors o ctx got)) := by
  have hnodup : (done ++ f :: rest).Nodup := hall ▸ Field.all_nodup
  have hlength : ∀ op ∈ lengthOps o, (op != Op.get f) = true := by
    intro op hop
    unfold lengthOps at hop
    split at hop <;> simp_all
  have hfields : ∀ op ∈ done.flatMap (fieldOps editors o ctx got), (op != Op.get f) = true := by
    intro op hop
    obtain ⟨g, hg, hop⟩ := List.mem_flatMap.mp hop
    have hgf : g ≠ f := (List.nodup_append.mp hnodup).2.2 g hg f List.mem_cons_self
    unfold fieldOps at hop
    split at hop <;> simp at hop <;> rcases hop with rfl | rfl <;> simp [hgf]
  have hturn : ∃ later, fieldOps editors o ctx got f = .get f :: later := by
    unfold fieldOps
    split
    · exact ⟨_, rfl⟩
    · exact ⟨_, rfl⟩
  obtain ⟨later, hturn⟩ := hturn
  unfold fileOps
  rw [← hall, List.flatMap_append, List.flatMap_cons, hturn]
  simp only [List.append_assoc, List.cons_append]
  rw [List.takeWhile_cons_of_pos (by simp), List.takeWhile_append_of_pos hlength,
    List.takeWhile_append_of_pos hfields, List.takeWhile_cons_of_neg (by simp), List.append_nil]

/-- The texts that are got are those that the store gives at the field's turn. -/
theorem gotten_eq (path : FilePath) (f : Field) :
    gotten b editors o ctx h f = b.get (b.after h ((fileOps editors o ctx
      (gotten b editors o ctx h) path).takeWhile (· != .get f))) f := by
  obtain ⟨done, rest, hall⟩ := List.append_of_mem (Field.mem_all f)
  have hlog : Logged b editors o ctx h done _ := Logged.sessionAt hall.symm
  rw [takeWhile_fileOps hall.symm, gotten, takeWhile_of_all hall.symm, hlog.handle, hlog.ops]
  rfl

theorem save_mem_fileOps {got : Field → Text} (path : FilePath) :
    .save ∈ fileOps editors o ctx got path ↔ saveOps editors o ctx got = [.save] := by
  have hlength : Op.save ∉ lengthOps o := by
    unfold lengthOps
    split <;> simp
  have hfields : Op.save ∉ Field.all.flatMap (fieldOps editors o ctx got) := by
    intro hmem
    obtain ⟨f, -, hop⟩ := List.mem_flatMap.mp hmem
    unfold fieldOps at hop
    split at hop <;> simp at hop
  simp only [fileOps, List.mem_cons, List.mem_append, hlength, hfields, reduceCtorEq, false_or,
    List.not_mem_nil, or_false]
  unfold saveOps
  split <;> simp

/-- A file is saved if it has changes and the run is no dry run. -/
theorem Logged.saveOps_eq {s : Session Handle} (hs : Logged b editors o ctx h Field.all s) :
    saveOps editors o ctx (gotten b editors o ctx h) =
      if s.changes ≠ 0 ∧ o.dryRun = false then [.save] else [] := by
  have hchanges : s.changes ≠ 0 ↔ lengthOps o ≠ [] ∨
      ∃ f ∈ Field.all,
        made editors ctx (gotten b editors o ctx h) f ≠ gotten b editors o ctx h f := by
    rw [Ne, hs.changes, not_and_or]
    simp
  unfold saveOps
  refine if_congr ?_ rfl rfl
  rw [hchanges, and_comm]
  refine and_congr_left fun hdry => or_congr_left ?_
  simp [lengthOps, hdry]

/-- Closing a session completes the operations on its file. -/
theorem Logged.finish {s : Session Handle} (hs : Logged b editors o ctx h Field.all s)
    (path : FilePath) (w : World) :
    let ops := fileOps editors o ctx (gotten b editors o ctx h) path
    (s.finish b o path w).ops = ops ∧ (s.finish b o path w).world = b.stored h w ops := by
  intro ops
  have hops : ops = .opened path :: (s.ops ++ saveOps editors o ctx (gotten b editors o ctx h) ++
      [.close path]) := by
    rw [hs.ops]
    rfl
  have hsave := hs.saveOps_eq
  have hmem : .save ∈ ops ↔ _ := save_mem_fileOps path
  unfold Session.finish Backend.stored
  by_cases hzero : s.changes = 0
  · simp only [hzero, ne_eq, not_true_eq_false, false_and, if_false] at hsave
    rw [if_pos hzero, if_neg (by simp [hmem, hsave])]
    simp [hops, hsave]
  · by_cases hdry : o.dryRun = true
    · simp only [hdry, Bool.true_eq_false, and_false, if_false] at hsave
      rw [if_neg hzero, if_pos hdry, if_neg (by simp [hmem, hsave])]
      simp [hops, hsave]
    · simp only [ne_eq, hzero, not_false_eq_true, hdry, and_self, if_true] at hsave
      have hafter : b.after h ops = s.handle := by
        simp [hops, hsave, hs.handle, Backend.perform]
      rw [if_neg hzero, if_neg hdry, if_pos (hmem.mpr hsave), hafter]
      rcases b.save s.handle w with e | w' <;> simp [hops, hsave, Except.toOption]

theorem processFile_refused {w : World} {path : FilePath} {e : TagError}
    (hopen : b.openFile path w = .error e) :
    processFile b editors o w path = { world := w, outcome := .error e } := by
  simp only [processFile, hopen]

/-- A file that is opened has the session of all editors. -/
theorem processFile_opened {w : World} {path : FilePath} (hopen : b.openFile path w = .ok h)
    (hctx : ctx = Context.ofFile (display path) (b.duration (b.after h (lengthOps o)))) :
    processFile b editors o w path =
      (sessionAt b editors o ctx h Field.all).finish b o path w := by
  simp only [processFile, hopen, start_handle]
  rw [hctx]
  rfl

theorem segment_processFile (w : World) (path : FilePath) :
    Segment b editors o path w (processFile b editors o w path).ops
      (processFile b editors o w path).world := by
  rcases hopen : b.openFile path w with e | h
  · rw [processFile_refused hopen]
    exact .refused hopen
  · let ctx := Context.ofFile (display path) (b.duration (b.after h (lengthOps o)))
    have hlog : Logged b editors o ctx h Field.all _ := Logged.sessionAt (List.append_nil _)
    obtain ⟨hops, hworld⟩ := hlog.finish path w
    have hrun : processFile b editors o w path = (sessionAt b editors o ctx h Field.all).finish
      b o path w := processFile_opened hopen rfl
    rw [hrun, hops, hworld]
    exact .edited hopen rfl rfl (gotten_eq path)

/-! ## All files -/

/-- A run appends a trace to the operations before it. -/
theorem foldl_add_trace (others : World → World) (paths : List FilePath) (r : BatchRun World) :
    let run := paths.foldl (fun r p => r.add p (processFile b editors o (others r.world) p)) r
    ∃ ops, run.ops = r.ops ++ ops ∧ Trace b editors o others r.world paths ops run.world := by
  induction paths generalizing r with
  | nil => exact ⟨[], by simp, .nil _⟩
  | cons p paths ih =>
    obtain ⟨ops, hops, htrace⟩ := ih (r.add p (processFile b editors o (others r.world) p))
    refine ⟨_, ?_, .cons (segment_processFile _ p) htrace⟩
    rw [List.foldl_cons, hops, BatchRun.add, List.append_assoc]

theorem trace_processFilesAmid (others : World → World) (w : World) (paths : List FilePath) :
    let run := processFilesAmid b editors o others w paths
    Trace b editors o others w paths run.ops run.world := by
  intro run
  obtain ⟨ops, hops, htrace⟩ : ∃ ops, run.ops = [] ++ ops ∧
    Trace b editors o others w paths ops run.world := foldl_add_trace others paths { world := w }
  rw [hops]
  exact htrace

/-- The operations on a file leave no file open. -/
theorem Segment.released {path : FilePath} {w w' : World} {ops : List Op}
    (hseg : Segment b editors o path w ops w') :
    ops.foldlM Hold.after .released = some .released := by
  have hedits : ∀ ops : List Op, (∀ op ∈ ops, (Hold.held path false).after op =
      some (.held path false)) → ops.foldlM Hold.after (.held path false) =
        some (.held path false) := by
    intro ops hstay
    induction ops with
    | nil => rfl
    | cons op ops ih =>
      rw [List.foldlM_cons, hstay op List.mem_cons_self]
      exact ih fun op hop => hstay op (List.mem_cons_of_mem _ hop)
  cases hseg with
  | refused => rfl
  | edited hopen hctx hops hgot =>
    rename_i h got ctx
    subst hops
    have hlength := hedits (lengthOps o) (by
      intro op hop
      unfold lengthOps at hop
      split at hop <;> simp_all [Hold.after])
    have hfields := hedits (Field.all.flatMap (fieldOps editors o ctx got)) (by
      intro op hop
      obtain ⟨f, -, hop⟩ := List.mem_flatMap.mp hop
      unfold fieldOps at hop
      split at hop <;> simp at hop <;> rcases hop with rfl | rfl <;> rfl)
    have hopened : Hold.released.after (.opened path) = some (.held path false) := rfl
    rw [fileOps, List.foldlM_cons, hopened]
    simp only [Option.bind_eq_bind, Option.bind_some, List.foldlM_append, hlength, hfields]
    unfold saveOps
    split <;> simp [Hold.after]

/-- On a dry run, operations on a file only read. -/
theorem Segment.reads {path : FilePath} {w w' : World} {ops : List Op}
    (hseg : Segment b editors o path w ops w') (hdry : o.dryRun = true) :
    ∀ op ∈ ops, op.writes = false := by
  cases hseg with
  | refused => simp
  | edited hopen hctx hops hgot =>
    subst hops
    intro op hop
    simp only [fileOps, lengthOps, fieldOps, saveOps, hdry, Bool.not_true, Bool.and_false,
      Bool.true_eq_false, and_false, false_and, if_false, Bool.false_eq_true, List.nil_append,
      List.append_nil, List.mem_cons, List.mem_append, List.mem_flatMap, List.not_mem_nil,
      or_false] at hop
    rcases hop with rfl | ⟨f, -, rfl⟩ | rfl <;> rfl

theorem Trace.released {others : World → World} {w w' : World} {paths : List FilePath}
    {ops : List Op} (htrace : Trace b editors o others w paths ops w') :
    ops.foldlM Hold.after .released = some .released := by
  induction htrace with
  | nil w => rfl
  | cons hseg _ ih =>
    rw [List.foldlM_append, hseg.released]
    exact ih

theorem Trace.reads {others : World → World} {w w' : World} {paths : List FilePath}
    {ops : List Op} (htrace : Trace b editors o others w paths ops w') (hdry : o.dryRun = true) :
    ∀ op ∈ ops, op.writes = false := by
  induction htrace with
  | nil w => simp
  | cons hseg _ ih =>
    intro op hop
    rcases List.mem_append.mp hop with hop | hop
    · exact hseg.reads hdry op hop
    · exact ih op hop

end

/-- The operations of a run are, path by path, those that `Segment` tells from the answers of the
store, whatever others do to it in between. One file is open at a time, it is released before the
next one is opened and saved at most once before, and a dry run only reads. -/
theorem processFiles_trace (b : Backend World Handle) (editors : EditorSet) (o : RunOptions)
    (w : World) (paths : List FilePath) :
    processFiles b editors o w paths = processFilesAmid b editors o id w paths ∧
    ∀ others : World → World,
      let run := processFilesAmid b editors o others w paths
      Trace b editors o others w paths run.ops run.world ∧
      run.ops.foldlM Hold.after .released = some .released ∧
      (o.dryRun = true → ∀ op ∈ run.ops, op.writes = false) := by
  refine ⟨rfl, fun others => ?_⟩
  have htrace : Trace b editors o others w paths _ _ := trace_processFilesAmid others w paths
  exact ⟨htrace, htrace.released, htrace.reads⟩

/-- A path that comes twice, in a store that counts its turns, opens a file at the second one and
never saves it: a real run releases the file all the same, and a dry run only reads. -/
theorem processFiles_trace_unsaved :
    let b : Backend Nat Unit :=
      { openFile := fun _ n => if n = 1 then .error .notAFile else .ok ()
        get := fun _ _ => ['o'], set := fun h _ _ => h, duration := fun _ => .zero
        updateLength := id, save := fun _ _ => .error .notAFile }
    let editors : EditorSet := ⟨[⟨.comment, [.set ['n']]⟩]⟩
    let run := fun dryRun => processFilesAmid b editors { dryRun } Nat.succ 0 [[97], [97]]
    (run false).ops = [.opened [97], .get .title, .get .artist, .get .album, .get .genre,
        .get .track, .get .comment, .set .comment ['n'], .get .year, .save, .close [97]] ∧
      (run false).ops.foldlM Hold.after .released = some .released ∧
      ∀ op ∈ (run true).ops, op.writes = false := by
  intro b editors run
  exact ⟨by decide +kernel,
    ((processFiles_trace b editors { dryRun := false } 0 [[97], [97]]).2 Nat.succ).2.1,
    ((processFiles_trace b editors { dryRun := true } 0 [[97], [97]]).2 Nat.succ).2.2 rfl⟩

end TagEdit
