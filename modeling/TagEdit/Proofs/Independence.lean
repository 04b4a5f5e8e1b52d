import Mathlib.Data.List.Basic
import TagEdit.Proofs.Reporting
import TagEdit.Proofs.Turns

/-!
# Independence of files

The turn of a path reads and writes the one track that the path names. Two turns on different
tracks can therefore change places, and on paths that name different tracks every path fares as if
it were the only one, in whatever order the paths come and whatever becomes of the others.
-/

namespace TagEdit

open TagEdit.Path

/-! ## One turn -/

/-- The turn of a path puts an edited copy of its track into the store. -/
structure Stores (editors : EditorSet) (o : RunOptions) (path : FilePath) (t : Track) : Prop where
  opens : t.openError = none
  saves : t.saveError = none
  due : ¬ Idle editors o path t

section

variable {editors : EditorSet} {o : RunOptions} {path : FilePath} {s s' : TrackStore} {t : Track}

theorem openTrack_of_find? (hfind : s.find? path = some t) (hopens : t.openError = none) :
    TrackStore.openTrack path s = .ok t := by
  simp [TrackStore.openTrack, hfind, hopens]

theorem openError_of_openTrack (hopen : TrackStore.openTrack path s = .ok t) :
    t.openError = none := by
  have hfind := find?_of_openTrack hopen
  simp only [TrackStore.openTrack, hfind] at hopen
  rcases he : t.openError with _ | e
  · rfl
  · simp [he] at hopen

theorem world_of_stores (hfind : s.find? path = some t) (h : Stores editors o path t) :
    (processFile TrackStore.backend editors o s path).world = s.put (saved editors o path t) := by
  have hsaved := finish_of_not_idle h.due s
  simp only [h.saves] at hsaved
  rw [processFile_of_ok (openTrack_of_find? hfind h.opens)]
  exact hsaved.2.1

theorem world_of_not_stores (h : ∀ t, s.find? path = some t → ¬ Stores editors o path t) :
    (processFile TrackStore.backend editors o s path).world = s := by
  rcases hopen : TrackStore.openTrack path s with e | t
  · rw [processFile_of_error hopen]
  rw [processFile_of_ok hopen]
  by_cases hidle : Idle editors o path t
  · exact (finish_of_idle hidle s).1
  have hsaved := finish_of_not_idle hidle s
  rcases hsave : t.saveError with _ | e
  · exact absurd ⟨openError_of_openTrack hopen, hsave, hidle⟩ (h t (find?_of_openTrack hopen))
  · simp only [hsave] at hsaved
    exact hsaved.2

/-- What is done and told at a turn depends on the track that its path names, and on no other. -/
theorem turn_congr (editors : EditorSet) (o : RunOptions) (h : s'.find? path = s.find? path) :
    let run := processFile TrackStore.backend editors o s path
    let run' := processFile TrackStore.backend editors o s' path
    run'.ops = run.ops ∧ told path run' = told path run ∧ run'.outcome = run.outcome ∧
      run'.world.find? path = run.world.find? path := by
  intro run run'
  obtain ⟨houtcome, hfind⟩ : run'.outcome = run.outcome ∧
    run'.world.find? path = run.world.find? path := processFile_congr h
  have hboth : run'.ops = run.ops ∧ run'.calls = run.calls := by
    rcases hopen : TrackStore.openTrack path s with e | t
    · have hrun : run = _ := processFile_of_error hopen
      have hrun' : run' = _ := processFile_of_error ((TrackStore.openTrack_congr h).trans hopen)
      rw [hrun, hrun']
      exact ⟨rfl, rfl⟩
    · have hrun : run = _ := processFile_of_ok hopen
      have hrun' : run' = _ := processFile_of_ok ((TrackStore.openTrack_congr h).trans hopen)
      rw [hrun, hrun']
      exact ⟨(finish_congr _ s s').1, (finish_congr _ s s').2.1⟩
  exact ⟨hboth.1, by rw [told, told, hboth.2, houtcome], houtcome, hfind⟩

/-- Turns of paths that name different tracks may change places. -/
theorem world_comm (editors : EditorSet) (o : RunOptions) {p q : FilePath}
    (h : ∀ t, s.find? p = some t → s.find? q ≠ some t) :
    (processFile TrackStore.backend editors o
        (processFile TrackStore.backend editors o s p).world q).world =
      (processFile TrackStore.backend editors o
        (processFile TrackStore.backend editors o s q).world p).world := by
  let turn := fun (s : TrackStore) p => (processFile TrackStore.backend editors o s p).world
  show turn (turn s p) q = turn (turn s q) p
  have hq : (turn s p).find? q = s.find? q := TrackStore.find?_processFile_of_apart h editors o
  have hp : (turn s q).find? p = s.find? p :=
    TrackStore.find?_processFile_of_apart (fun t hq hp => h t hp hq) editors o
  by_cases hstores : ∃ t, s.find? p = some t ∧ Stores editors o p t
  · obtain ⟨t, ht, hstore⟩ := hstores
    have hpq : same q p = false := by
      refine Bool.eq_false_iff.mpr fun hsame => h t ht ?_
      rw [TrackStore.find?_congr hsame, ht]
    by_cases hstores' : ∃ t, s.find? q = some t ∧ Stores editors o q t
    · obtain ⟨t', ht', hstore'⟩ := hstores'
      calc turn (turn s p) q
          = (turn s p).put (saved editors o q t') := world_of_stores (hq.trans ht') hstore'
        _ = (s.put (saved editors o p t)).put (saved editors o q t') := by
          rw [show turn s p = _ from world_of_stores ht hstore]
        _ = (s.put (saved editors o q t')).put (saved editors o p t) :=
          TrackStore.put_comm hpq ht ht' saved_path saved_path
        _ = (turn s q).put (saved editors o p t) := by
          rw [show turn s q = _ from world_of_stores ht' hstore']
        _ = turn (turn s q) p := (world_of_stores (hp.trans ht) hstore).symm
    · have hkeep : ∀ w : TrackStore, w.find? q = s.find? q → turn w q = w := fun w hw =>
        world_of_not_stores fun t' ht' hstore' => hstores' ⟨t', hw ▸ ht', hstore'⟩
      rw [hkeep _ hq, hkeep s rfl]
  · have hkeep : ∀ w : TrackStore, w.find? p = s.find? p → turn w p = w := fun w hw =>
      world_of_not_stores fun t ht hstore => hstores ⟨t, hw ▸ ht, hstore⟩
    rw [hkeep s rfl, hkeep _ hp]

/-- A turn leaves every path without a track that has none. -/
theorem find?_turn_eq_none_iff {p : FilePath} :
    (processFile TrackStore.backend editors o s path).world.find? p = none ↔
      s.find? p = none := by
  rcases hsame : same p path
  · rw [find?_processFile hsame]
  rcases processFile_world editors o s path with hworld | ⟨t, hfind, hworld⟩
  · rw [hworld]
  · rw [hworld, TrackStore.find?_congr hsame, TrackStore.find?_put hfind saved_path,
      TrackStore.find?_congr hsame, hfind]
    simp

end

/-! ## Paths that name different tracks -/

namespace TrackStore

/-- Two paths name different tracks if they are not two spellings of the path of one. -/
theorem apart_pair_iff {s : TrackStore} {p q : FilePath} :
    (∀ t, s.find? p = some t → s.find? q ≠ some t) ↔ (same p q = true → s.find? p = none) := by
  constructor
  · intro h hsame
    rcases hp : s.find? p with _ | t
    · rfl
    · exact absurd ((find?_congr hsame s).symm.trans hp) (h t hp)
  · intro h t hp hq
    rw [h (same_of_found hp hq)] at hp
    cases hp

namespace Apart

variable {s w : TrackStore} {p : FilePath} {paths order : List FilePath}

theorem head (h : s.Apart (p :: paths)) :
    ∀ q ∈ paths, ∀ t, s.find? p = some t → s.find? q ≠ some t := (List.pairwise_cons.mp h).1

theorem tail (h : s.Apart (p :: paths)) : s.Apart paths := (List.pairwise_cons.mp h).2

theorem perm (h : s.Apart paths) (hperm : order.Perm paths) : s.Apart order := by
  refine (hperm.pairwise_iff fun {p q} hpq t hq hp => ?_).mpr h
  exact hpq t hp hq

/-- Paths stay apart. -/
theorem turn (h : s.Apart paths) (editors : EditorSet) (o : RunOptions) (path : FilePath) :
    (processFile backend editors o s path).world.Apart paths := by
  refine List.Pairwise.imp (fun {p q} hpq => ?_) h
  rw [apart_pair_iff] at hpq ⊢
  exact fun hsame => find?_turn_eq_none_iff.mpr (hpq hsame)

end Apart

end TrackStore

/-! ## All turns -/

section

variable {editors : EditorSet} {o : RunOptions} {s : TrackStore}

/-- A run leaves what is named by a path that is apart from all its paths. -/
theorem find?_processFiles_of_apart {p : FilePath} {rest : List FilePath}
    (h : s.Apart (p :: rest)) :
    (processFiles TrackStore.backend editors o s rest).world.find? p = s.find? p := by
  induction rest generalizing s with
  | nil => rfl
  | cons q rest ih =>
    have hswap : s.Apart (q :: p :: rest) := h.perm (.swap p q rest)
    rw [processFiles_cons]
    exact (ih (hswap.tail.turn editors o q)).trans
      (TrackStore.find?_processFile_of_apart (hswap.head p List.mem_cons_self) editors o)

/-- On paths that name different tracks, the order makes no difference to the store. -/
theorem world_perm {paths order : List FilePath} (hperm : order.Perm paths) :
    ∀ {s : TrackStore}, s.Apart order →
      (processFiles TrackStore.backend editors o s order).world =
        (processFiles TrackStore.backend editors o s paths).world := by
  induction hperm with
  | nil => exact fun _ => rfl
  | cons p _ ih =>
    intro s h
    rw [processFiles_cons, processFiles_cons]
    exact ih (h.tail.turn editors o p)
  | swap p q rest =>
    intro s h
    have hcomm := world_comm editors o (h.head p List.mem_cons_self)
    simp only [processFiles_cons, BatchRun.andThen]
    rw [hcomm]
  | trans hperm _ ih ih' =>
    intro s h
    exact (ih h).trans (ih' (h.perm hperm.symm))

/-- Every path fares in a run as if its turn had been the first. -/
structure Alone (editors : EditorSet) (o : RunOptions) (s : TrackStore) (paths : List FilePath)
    (r : BatchRun TrackStore) : Prop where
  ops : r.ops = paths.flatMap fun p => (processFile TrackStore.backend editors o s p).ops
  calls : r.calls = paths.flatMap fun p => told p (processFile TrackStore.backend editors o s p)
  summary : r.summary = (paths.map fun p =>
    (processFile TrackStore.backend editors o s p).outcome).foldl Summary.count {}
  tracks : ∀ p ∈ paths, r.world.find? p =
    (processFile TrackStore.backend editors o s p).world.find? p

/-- How a path fares as the first one depends on nothing but its track. -/
theorem Alone.congr {w : TrackStore} {paths : List FilePath} {r : BatchRun TrackStore}
    (h : Alone editors o w paths r) (hfind : ∀ p ∈ paths, w.find? p = s.find? p) :
    Alone editors o s paths r := by
  have hturn : ∀ p ∈ paths, _ := fun p hp =>
    turn_congr editors o (hfind p hp)
  refine ⟨?_, ?_, ?_, fun p hp => (h.tracks p hp).trans (hturn p hp).2.2.2⟩
  · rw [h.ops]
    exact List.flatMap_congr fun p hp => (hturn p hp).1
  · rw [h.calls]
    exact List.flatMap_congr fun p hp => (hturn p hp).2.1
  · rw [h.summary]
    exact congrArg _ (List.map_congr_left fun p hp => (hturn p hp).2.2.1)

theorem alone_processFiles {paths : List FilePath} (h : s.Apart paths) :
    Alone editors o s paths (processFiles TrackStore.backend editors o s paths) := by
  induction paths generalizing s with
  | nil => exact ⟨rfl, rfl, rfl, by simp⟩
  | cons p rest ih =>
    have hrest := (ih (h.tail.turn editors o p)).congr fun q hq =>
      TrackStore.find?_processFile_of_apart (h.head q hq) editors o
    rw [processFiles_cons, BatchRun.add_start]
    refine ⟨?_, ?_, ?_, fun q hq => ?_⟩
    · rw [BatchRun.andThen, hrest.ops, List.flatMap_cons]
    · rw [BatchRun.andThen, hrest.calls, List.flatMap_cons]
    · rw [BatchRun.andThen, hrest.summary, List.map_cons, List.foldl_cons,
        ← Summary.foldl_count_add, Summary.add_empty]
    · rcases List.mem_cons.mp hq with rfl | hq
      · exact find?_processFiles_of_apart (h.turn editors o q)
      · exact hrest.tracks q hq

/-- After a path that fails, a run goes on as if that path were not there. -/
theorem processFiles_of_failure {done rest : List FilePath} {path : FilePath} {e : TagError}
    (h : (processFile TrackStore.backend editors o
      (processFiles TrackStore.backend editors o s done).world path).outcome = .error e) :
    let before := processFiles TrackStore.backend editors o s done
    processFiles TrackStore.backend editors o s (done ++ path :: rest) =
      (before.add path (processFile TrackStore.backend editors o before.world path)).andThen
        (processFiles TrackStore.backend editors o before.world rest) := by
  intro before
  have hadd : ∀ f : FileRun TrackStore, before.add path f =
      before.andThen (BatchRun.add { world := before.world } path f) := by
    intro f
    rw [BatchRun.andThen_add, BatchRun.andThen_start]
  rw [processFiles_andThen, processFiles_cons, world_of_failure h, hadd, BatchRun.andThen_assoc]

end

/-! ## Runs in front of a listener -/

section

variable {World Handle σ : Type}

/-- The account of a live run that is followed by another one. -/
def LiveRun.andThen (r r' : LiveRun World σ) : LiveRun World σ :=
  { world := r'.world, ops := r.ops ++ r'.ops, summary := r.summary + r'.summary
    listener := r'.listener }

/-- A live run goes on with the store and the listener as the one before has left them. -/
theorem processFilesLive_append (tell : σ → Report.Call → σ) (b : Backend World Handle)
    (editors : EditorSet) (o : RunOptions) (w : World) (x : σ) (paths more : List FilePath) :
    let first := processFilesLive tell b editors o w x paths
    processFilesLive tell b editors o w x (paths ++ more) =
      first.andThen (processFilesLive tell b editors o first.world first.listener more) := by
  intro first
  have hfirst : first = (processFiles b editors o w paths).heard tell x :=
    processFilesLive_eq w paths
  rw [hfirst, processFilesLive_eq, processFilesLive_eq, processFiles_andThen]
  simp only [BatchRun.heard, BatchRun.andThen, LiveRun.andThen, List.foldl_append]

end

/-- Files are edited independently of each other. If the paths name different tracks, every path
does, tells and leaves behind in any order what it would if its turn were the first, so that the
store and the counts come out the same; and what it would depends on its own track alone. After a
path that fails the others go on as if it were not there. On any paths a run may be divided in two,
the second of which takes over the store and the reporter, and their counts add up. -/
theorem files_are_independent (editors : EditorSet) (o : RunOptions) :
    let turn := processFile TrackStore.backend editors o
    let run := processFiles TrackStore.backend editors o
    (∀ (s : TrackStore) (paths order : List FilePath), s.Apart paths → order.Perm paths →
      (run s order).world = (run s paths).world ∧
      (run s order).summary = (run s paths).summary ∧
      Alone editors o s paths (run s paths) ∧ Alone editors o s order (run s order)) ∧
    (∀ (s s' : TrackStore) (path : FilePath), s'.find? path = s.find? path →
      (turn s' path).ops = (turn s path).ops ∧
      told path (turn s' path) = told path (turn s path) ∧
      (turn s' path).outcome = (turn s path).outcome ∧
      (turn s' path).world.find? path = (turn s path).world.find? path) ∧
    (∀ (s : TrackStore) (done rest : List FilePath) (path : FilePath) (e : TagError),
      let before := run s done
      let after := run before.world rest
      (turn before.world path).outcome = .error e →
        run s (done ++ rest) = before.andThen after ∧
        run s (done ++ path :: rest) =
          (before.add path (turn before.world path)).andThen after) ∧
    (∀ (s : TrackStore) (paths more : List FilePath),
      run s (paths ++ more) = (run s paths).andThen (run (run s paths).world more)) ∧
    ∀ (σ : Type) (tell : σ → Report.Call → σ) (x : σ) (s : TrackStore)
      (paths more : List FilePath),
      let live := processFilesLive tell TrackStore.backend editors o
      live s x (paths ++ more) = (live s x paths).andThen
        (live (live s x paths).world (live s x paths).listener more) := by
  intro turn run
  refine ⟨fun s paths order hapart hperm => ?_, fun s s' path => turn_congr editors o, ?_,
    processFiles_andThen, fun σ tell x s paths more =>
      processFilesLive_append tell TrackStore.backend editors o s x paths more⟩
  rotate_left
  · intro s done rest path e before after h
    exact ⟨processFiles_andThen s done rest, processFiles_of_failure h⟩
  have halone : Alone editors o s paths (run s paths) := alone_processFiles hapart
  have halone' : Alone editors o s order (run s order) := alone_processFiles (hapart.perm hperm)
  refine ⟨world_perm hperm (hapart.perm hperm), ?_, halone, halone'⟩
  rw [halone.summary, halone'.summary]
  exact Summary.foldl_count_perm (hperm.map _) {}

/-- A track that is saved, one that cannot be saved and a path without a track, forwards and
backwards; the one that cannot be saved might as well be left out. -/
theorem files_are_independent_failures :
    let s : TrackStore := [{ path := [97] }, { path := [98], saveError := some .notAFile }]
    let editors : EditorSet := ⟨[⟨.title, [.set ['n']]⟩]⟩
    let run := processFiles TrackStore.backend editors {} s
    s.Apart [[97], [98], [99]] ∧
      (run [[99], [98], [97]]).world = (run [[97], [98], [99]]).world ∧
      (run [[99], [98], [97]]).summary = { processed := 1, updated := 1, failed := 2 } ∧
      (run [[97], [98], [99]]).world = (run [[97], [99]]).world := by
  intro s editors run
  have hapart : s.Apart [[97], [98], [99]] := TrackStore.apart_of_distinct (by decide) s
  obtain ⟨hperm, -, hfails, -⟩ := files_are_independent editors {}
  obtain ⟨hworld, hsummary, -⟩ := hperm s [[97], [98], [99]] [[99], [98], [97]] hapart (by decide)
  obtain ⟨hwithout, hwith⟩ := hfails s [[97]] [[99]] [98] .notAFile (by decide +kernel)
  simp only [List.cons_append, List.nil_append] at hwithout hwith
  simp only [run]
  refine ⟨hapart, hworld, hsummary.trans (by decide +kernel), ?_⟩
  rw [hwith, hwithout, BatchRun.andThen, BatchRun.andThen]

end TagEdit
