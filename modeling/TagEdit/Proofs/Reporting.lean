import TagEdit.Proofs.Delivery
import TagEdit.Proofs.DryRun

/-!
# Reporting

A live run hands every call to its listener at the moment it is made, in the middle of the edits,
and goes on with the listener as the call has left it. It does to the store what the run does that
only gathers its calls, whoever listens, and in the end the listener has heard the gathered calls.
The listener that reports is a `Console`, whose state holds what it has noted and what came through.
-/

namespace TagEdit

open TagEdit.Path

variable {World Handle σ : Type}

/-! ## Live runs -/

/-- A file under edit in front of a listener. -/
structure LiveSession (Handle σ : Type) where
  handle : Handle
  ops : List Op := []
  changes : Nat := 0
  listener : σ

/-- What became of one path, and of the listener. -/
structure LiveFileRun (World σ : Type) where
  world : World
  ops : List Op := []
  outcome : Except TagError FileStatus
  listener : σ

/-- What became of all paths, and of the listener. -/
structure LiveRun (World σ : Type) where
  world : World
  ops : List Op := []
  summary : Summary := {}
  listener : σ

section

variable (tell : σ → Report.Call → σ) (b : Backend World Handle) (editors : EditorSet)
  (o : RunOptions)

namespace LiveSession

def start (x : σ) (h : Handle) : LiveSession Handle σ :=
  if o.updateLength && !o.dryRun then
    { handle := b.updateLength h, ops := [.updateLength], changes := 1, listener := x }
  else { handle := h, listener := x }

/-- Runs the editor of one field, and tells a change before the next field has its turn. -/
def edit (ctx : Context) (s : LiveSession Handle σ) (f : Field) : LiveSession Handle σ :=
  let old := b.get s.handle f
  let new := (editors.get f).apply ctx old
  if new = old then { s with ops := s.ops ++ [.get f] }
  else
    { handle := if o.dryRun then s.handle else b.set s.handle f new
      ops := s.ops ++ if o.dryRun then [.get f] else [.get f, .set f new]
      changes := s.changes + 1
      listener := tell s.listener (.fieldChange f old new) }

/-- Saves a file if that is due, tells it, and releases the file. -/
def finish (path : FilePath) (w : World) (s : LiveSession Handle σ) : LiveFileRun World σ :=
  let ops := Op.opened path :: s.ops
  if s.changes = 0 then
    { world := w, ops := ops ++ [.close path], outcome := .ok .unchanged
      listener := tell s.listener (.unchanged path) }
  else if o.dryRun then
    { world := w, ops := ops ++ [.close path], outcome := .ok .updated, listener := s.listener }
  else
    match b.save s.handle w with
    | .error e =>
      { world := w, ops := ops ++ [.save, .close path], outcome := .error e
        listener := s.listener }
    | .ok w =>
      { world := w, ops := ops ++ [.save, .close path], outcome := .ok .updated
        listener := tell s.listener (.updating path) }

end LiveSession

/-- Runs all editors on one file in front of a listener. -/
def processFileLive (w : World) (x : σ) (path : FilePath) : LiveFileRun World σ :=
  match b.openFile path w with
  | .error e => { world := w, outcome := .error e, listener := x }
  | .ok h =>
    let s := LiveSession.start b o x h
    let ctx := Context.ofFile (display path) (b.duration s.handle)
    (Field.all.foldl (LiveSession.edit tell b editors o ctx) s).finish tell b o path w

/-- Adds one more path; a failure is told to the listener. -/
def LiveRun.add (r : LiveRun World σ) (path : FilePath) : LiveRun World σ :=
  let f := processFileLive tell b editors o r.world r.listener path
  { world := f.world
    ops := r.ops ++ f.ops
    summary := r.summary.count f.outcome
    listener := match f.outcome with
      | .error e => tell f.listener (.failure path e.message)
      | .ok _ => f.listener }

/-- Runs all editors on every path in order, in front of a listener. -/
def processFilesLive (w : World) (x : σ) (paths : List FilePath) : LiveRun World σ :=
  paths.foldl (LiveRun.add tell b editors o) { world := w, listener := x }

end

/-! ## Live runs and gathered calls -/

section

variable (tell : σ → Report.Call → σ) (x : σ)

/-- A session in front of a listener who has heard its calls. -/
def Session.heard (s : Session Handle) : LiveSession Handle σ :=
  ⟨s.handle, s.ops, s.changes, s.calls.foldl tell x⟩

def FileRun.heard (f : FileRun World) : LiveFileRun World σ :=
  ⟨f.world, f.ops, f.outcome, f.calls.foldl tell x⟩

def BatchRun.heard (r : BatchRun World) : LiveRun World σ :=
  ⟨r.world, r.ops, r.summary, r.calls.foldl tell x⟩

end

section

variable {tell : σ → Report.Call → σ} {b : Backend World Handle} {editors : EditorSet}
  {o : RunOptions} {x : σ}

theorem heard_start (tell : σ → Report.Call → σ) (h : Handle) :
    (Session.start b o h).heard tell x = LiveSession.start b o x h := by
  unfold Session.start LiveSession.start
  split <;> rfl

theorem heard_edit (ctx : Context) (s : Session Handle) (f : Field) :
    (s.heard tell x).edit tell b editors o ctx f = (s.edit b editors o ctx f).heard tell x := by
  unfold Session.edit LiveSession.edit Session.heard
  dsimp only
  split
  · rfl
  · rw [List.foldl_append]
    rfl

theorem heard_finish (path : FilePath) (w : World) (s : Session Handle) :
    (s.heard tell x).finish tell b o path w = (s.finish b o path w).heard tell x := by
  unfold Session.finish LiveSession.finish Session.heard FileRun.heard
  dsimp only
  split
  · rw [List.foldl_append]
    rfl
  split
  · rfl
  rcases b.save s.handle w with e | w'
  · rfl
  · dsimp only
    rw [List.foldl_append]
    rfl

theorem processFileLive_eq (w : World) (path : FilePath) :
    processFileLive tell b editors o w x path =
      (processFile b editors o w path).heard tell x := by
  unfold processFileLive processFile
  rcases b.openFile path w with e | h
  · rfl
  · dsimp only
    rw [← heard_start tell, ← heard_finish]
    refine congrArg (LiveSession.finish tell b o path w) ?_
    exact List.foldl_hom (Session.heard tell x) fun s f => heard_edit _ s f

theorem heard_add (r : BatchRun World) (path : FilePath) :
    (r.heard tell x).add tell b editors o path =
      (r.add path (processFile b editors o r.world path)).heard tell x := by
  unfold LiveRun.add BatchRun.heard
  rw [processFileLive_eq]
  unfold FileRun.heard BatchRun.add
  dsimp only
  rcases (processFile b editors o r.world path).outcome with e | status
  · rw [List.foldl_append, List.foldl_append]
    rfl
  · rw [List.append_nil, List.foldl_append]

/-- A live run is the run that gathers its calls, with a listener who has heard them all. -/
theorem processFilesLive_eq (w : World) (paths : List FilePath) :
    processFilesLive tell b editors o w x paths =
      (processFiles b editors o w paths).heard tell x := by
  have hstart : ({ world := w, listener := x } : LiveRun World σ) =
      BatchRun.heard tell x { world := w } := rfl
  unfold processFilesLive processFiles
  rw [hstart]
  exact List.foldl_hom (BatchRun.heard tell x) fun r path => heard_add r path

end

/-! ## The reporting listener -/

namespace Report

/-- A reporter at work, and what it has delivered so far. -/
structure Console where
  reporter : Reporter
  shown : Delivery := {}

namespace Console

def fresh (quiet : Bool) : Console := { reporter := { quiet } }

def tell (sink : Sink) (c : Console) (call : Call) : Console :=
  let (reporter, delivery) := c.reporter.tell sink call
  ⟨reporter, c.shown ++ delivery⟩

/-- A console shows all that its reporter delivers. -/
theorem shown_foldl (sink : Sink) (c : Console) (calls : List Call) :
    (calls.foldl (tell sink) c).shown = (c.reporter.tellAll sink calls).foldl (· ++ ·) c.shown := by
  induction calls generalizing c with
  | nil => rfl
  | cons call calls ih => exact ih _

end Console

end Report

open Report

/-- Whether the reporter is quiet, and which of its writes go through, makes no difference to the
store, to what is done to it and to the counts. What reaches the error stream depends on nothing but
how the writes to that stream fare, and what reaches the output stream, the reporter being as quiet,
on nothing but how the writes to that one fare. -/
theorem editing_ignores_reporting (b : Backend World Handle) (editors : EditorSet) (o : RunOptions)
    (w : World) (paths : List FilePath) (quiet quiet' : Bool) (sink sink' : Sink) :
    let plain := processFiles b editors o w paths
    let run := processFilesLive (Console.tell sink) b editors o w (Console.fresh quiet) paths
    let run' := processFilesLive (Console.tell sink') b editors o w (Console.fresh quiet') paths
    (run.world = plain.world ∧ run.ops = plain.ops ∧ run.summary = plain.summary ∧
      run.listener.shown = deliver quiet sink plain.calls) ∧
    (run'.world = run.world ∧ run'.ops = run.ops ∧ run'.summary = run.summary) ∧
    (FareAlike .err plain.calls quiet sink quiet' sink' →
      run'.listener.shown.err = run.listener.shown.err) ∧
    (FareAlike .out plain.calls quiet sink quiet' sink' → quiet' = quiet →
      run'.listener.shown.out = run.listener.shown.out) := by
  intro plain run run'
  have hrun : run = plain.heard (Console.tell sink) (Console.fresh quiet) :=
    processFilesLive_eq w paths
  have hrun' : run' = plain.heard (Console.tell sink') (Console.fresh quiet') :=
    processFilesLive_eq w paths
  have hshown : run.listener.shown = deliver quiet sink plain.calls := by
    rw [hrun]
    exact Console.shown_foldl sink _ plain.calls
  have hshown' : run'.listener.shown = deliver quiet' sink' plain.calls := by
    rw [hrun']
    exact Console.shown_foldl sink' _ plain.calls
  refine ⟨⟨by rw [hrun]; rfl, by rw [hrun]; rfl, by rw [hrun]; rfl, hshown⟩,
    ⟨by rw [hrun, hrun']; rfl, by rw [hrun, hrun']; rfl, by rw [hrun, hrun']; rfl⟩,
    fun halike => ?_, fun halike hquiet => ?_⟩
  · rw [hshown, hshown']
    exact deliver_on_congr (s := .err) halike (by rw [textsOn_err, textsOn_err])
  · rw [hshown, hshown']
    exact deliver_on_congr (s := .out) halike (by rw [hquiet])

/-- Three runs on a path that is missing, one that is saved and one that cannot be saved. A loud
one whose error stream takes all but the first write; a quiet one with a closed output and the same
error stream, where the second failure is the second write and not the fifth; and a loud one with a
closed error stream. -/
theorem editing_ignores_reporting_muted :
    let s : TrackStore :=
      [{ path := [97] }, { path := [98], saveError := some .notAFile }]
    let editors : EditorSet := ⟨[⟨.title, [.set ['n']]⟩]⟩
    let lossy : Sink := fun n stream => stream == .out || n != 0
    let halfClosed : Sink := fun n stream => stream == .err && n != 0
    let closed : Sink := fun _ stream => stream == .out
    let live := fun quiet sink => processFilesLive (Console.tell sink) TrackStore.backend editors
      {} s (Console.fresh quiet) [[99], [97], [98]]
    (live false lossy).listener.shown.err = "retag: b: not a regular file\n".toList ∧
      ((live true halfClosed).ops = (live false lossy).ops ∧
        (live true halfClosed).summary = (live false lossy).summary ∧
        (live true halfClosed).listener.shown.err = (live false lossy).listener.shown.err) ∧
      ((live false closed).ops = (live false lossy).ops ∧
        (live false closed).summary = (live false lossy).summary ∧
        (live false closed).listener.shown.out = (live false lossy).listener.shown.out) := by
  intro s editors lossy halfClosed closed live
  have herr : FareAlike .err
      (processFiles TrackStore.backend editors {} s [[99], [97], [98]]).calls
      false lossy true halfClosed := by
    have hfates : fates false lossy .err
        (processFiles TrackStore.backend editors {} s [[99], [97], [98]]).calls =
          [false, true] := by decide +kernel
    have hfates' : fates true halfClosed .err
        (processFiles TrackStore.backend editors {} s [[99], [97], [98]]).calls =
          [false, true] := by decide +kernel
    intro k ok ok' hok hok'
    rw [hfates] at hok
    rw [hfates'] at hok'
    exact Option.some.inj (hok'.symm.trans hok)
  have hout : FareAlike .out
      (processFiles TrackStore.backend editors {} s [[99], [97], [98]]).calls
      false lossy false closed := by
    have hopen : ∀ n n', closed n' .out = lossy n .out := fun _ _ => rfl
    exact fareAlike_of_steady hopen _ false false
  obtain ⟨⟨-, -, -, hshown⟩, ⟨-, hops, hsummary⟩, hmuted, -⟩ :=
    editing_ignores_reporting TrackStore.backend editors {} s [[99], [97], [98]] false true lossy
      halfClosed
  obtain ⟨-, ⟨-, hops', hsummary'⟩, -, hdeaf⟩ :=
    editing_ignores_reporting TrackStore.backend editors {} s [[99], [97], [98]] false false lossy
      closed
  simp only [live]
  refine ⟨?_, ⟨hops, hsummary, hmuted herr⟩, hops', hsummary', hdeaf hout rfl⟩
  rw [hshown]
  decide +kernel

end TagEdit
