import TagEdit.Proofs.DryRun

/-!
# Turns

A run gives every path its turn. What it does, tells and counts is put together from the turns,
and a run on more paths goes on where the run on fewer paths has stopped.
-/

namespace TagEdit

open TagEdit.Path

variable {World Handle : Type}

/-! ## One run after the other -/

namespace Summary

def add (a b : Summary) : Summary :=
  ⟨a.processed + b.processed, a.updated + b.updated, a.unchanged + b.unchanged,
    a.failed + b.failed⟩

instance : Add Summary := ⟨add⟩

theorem count_add (a b : Summary) (x : Except TagError FileStatus) :
    (a + b).count x = a + b.count x := by
  rcases x with e | _ | _ <;> rfl

theorem add_empty (a : Summary) : a + {} = a := rfl

theorem add_assoc (a b c : Summary) : a + b + c = a + (b + c) := by
  show add (add a b) c = add a (add b c)
  simp [add, Nat.add_assoc]

theorem foldl_count_add (xs : List (Except TagError FileStatus)) (a c : Summary) :
    xs.foldl count (a + c) = a + xs.foldl count c := by
  induction xs generalizing c with
  | nil => rfl
  | cons x xs ih => rw [List.foldl_cons, count_add, ih, List.foldl_cons]

theorem count_comm (a : Summary) (x y : Except TagError FileStatus) :
    (a.count x).count y = (a.count y).count x := by
  rcases x with e | _ | _ <;> rcases y with e' | _ | _ <;> rfl

/-- The order in which files are counted does not matter. -/
theorem foldl_count_perm {xs ys : List (Except TagError FileStatus)} (h : xs.Perm ys)
    (a : Summary) : xs.foldl count a = ys.foldl count a :=
  h.foldl_eq' (fun x _ y _ a => count_comm a x y) a

end Summary

namespace BatchRun

/-- The account of a run that is followed by another one. -/
def andThen (r r' : BatchRun World) : BatchRun World :=
  { world := r'.world, ops := r.ops ++ r'.ops, calls := r.calls ++ r'.calls
    summary := r.summary + r'.summary }

theorem andThen_start (r : BatchRun World) : r.andThen { world := r.world } = r := by
  simp [andThen, Summary.add_empty]

theorem andThen_add (r r' : BatchRun World) (path : FilePath) (f : FileRun World) :
    r.andThen (r'.add path f) = (r.andThen r').add path f := by
  simp [andThen, add, Summary.count_add]

theorem andThen_assoc (r r' r'' : BatchRun World) :
    (r.andThen r').andThen r'' = r.andThen (r'.andThen r'') := by
  simp [andThen, Summary.add_assoc]

/-- The account of a run on one path. -/
theorem add_start (w : World) (path : FilePath) (f : FileRun World) :
    add { world := w } path f =
      { world := f.world, ops := f.ops, calls := told path f
        summary := ({} : Summary).count f.outcome } := by
  unfold add told
  rcases f.outcome with e | status <;> rfl

end BatchRun

section

variable {b : Backend World Handle} {editors : EditorSet} {o : RunOptions}
  {others : World → World}

theorem processFilesAmid_append (w : World) (paths more : List FilePath) :
    processFilesAmid b editors o others w (paths ++ more) =
      (processFilesAmid b editors o others w paths).andThen (processFilesAmid b editors o others
        (processFilesAmid b editors o others w paths).world more) := by
  induction more using List.reverseRecOn with
  | nil => rw [List.append_nil]; exact (BatchRun.andThen_start _).symm
  | append_singleton more path ih =>
    have hlast : ∀ (w : World) (ps : List FilePath),
        processFilesAmid b editors o others w (ps ++ [path]) =
          (processFilesAmid b editors o others w ps).add path (processFile b editors o
            (others (processFilesAmid b editors o others w ps).world) path) := by
      intro w ps
      unfold processFilesAmid
      rw [List.foldl_append]
      rfl
    rw [← List.append_assoc, hlast, ih, hlast, BatchRun.andThen_add]
    rfl

/-- The first path has its turn, and then the others have theirs. -/
theorem processFilesAmid_cons (w : World) (path : FilePath) (rest : List FilePath) :
    let run := processFile b editors o (others w) path
    processFilesAmid b editors o others w (path :: rest) =
      (BatchRun.add { world := w } path run).andThen
        (processFilesAmid b editors o others run.world rest) :=
  processFilesAmid_append w [path] rest

theorem processFiles_cons (w : World) (path : FilePath) (rest : List FilePath) :
    let run := processFile b editors o w path
    processFiles b editors o w (path :: rest) =
      (BatchRun.add { world := w } path run).andThen (processFiles b editors o run.world rest) :=
  @processFilesAmid_cons World Handle b editors o id w path rest

theorem processFiles_andThen (w : World) (paths more : List FilePath) :
    processFiles b editors o w (paths ++ more) = (processFiles b editors o w paths).andThen
      (processFiles b editors o (processFiles b editors o w paths).world more) :=
  @processFilesAmid_append World Handle b editors o id w paths more

/-- A path that fails leaves the store as it is. -/
theorem world_of_failure {w : World} {path : FilePath} {e : TagError}
    (h : (processFile b editors o w path).outcome = .error e) :
    (processFile b editors o w path).world = w := by
  rcases hopen : b.openFile path w with e' | handle
  · rw [processFile_refused hopen]
  · rw [processFile_opened hopen rfl] at h ⊢
    revert h
    unfold Session.finish
    dsimp only
    split
    · exact fun _ => rfl
    split
    · exact fun _ => rfl
    split
    · exact fun _ => rfl
    · exact fun h => nomatch h

/-! ## The turns of a run -/

/-- What became of a path at its turn, in the store as it was then. -/
structure Turn (World : Type) where
  path : FilePath
  before : World
  run : FileRun World

namespace Turn

/-- What is told at a turn. -/
def calls (t : Turn World) : List Report.Call := told t.path t.run

/-- The error with which a turn ends. -/
def failure? (t : Turn World) : Option TagError :=
  match t.run.outcome with
  | .error e => some e
  | .ok _ => none

theorem failure?_eq_some_iff {t : Turn World} {e : TagError} :
    t.failure? = some e ↔ t.run.outcome = .error e := by
  unfold failure?
  rcases t.run.outcome with e' | status <;> simp

end Turn

variable (b editors o others) in
/-- The turns of some paths in order. Before each of them the store is changed by others. -/
def turnsAmid (w : World) : List FilePath → List (Turn World)
  | [] => []
  | path :: rest =>
    let run := processFile b editors o (others w) path
    ⟨path, others w, run⟩ :: turnsAmid run.world rest

/-- A run is put together from its turns. -/
structure Composed (r : BatchRun World) (turns : List (Turn World)) : Prop where
  ops : r.ops = turns.flatMap (·.run.ops)
  calls : r.calls = turns.flatMap Turn.calls
  summary : r.summary = (turns.map (·.run.outcome)).foldl Summary.count {}

theorem composed_turnsAmid (w : World) (paths : List FilePath) :
    Composed (processFilesAmid b editors o others w paths)
      (turnsAmid b editors o others w paths) := by
  induction paths generalizing w with
  | nil => exact ⟨rfl, rfl, rfl⟩
  | cons path rest ih =>
    have hrest := ih (processFile b editors o (others w) path).world
    rw [processFilesAmid_cons, BatchRun.add_start, turnsAmid]
    refine ⟨?_, ?_, ?_⟩
    · rw [BatchRun.andThen, hrest.ops, List.flatMap_cons]
    · rw [BatchRun.andThen, hrest.calls, List.flatMap_cons, Turn.calls]
    · rw [BatchRun.andThen, hrest.summary, List.map_cons, List.foldl_cons,
        ← Summary.foldl_count_add, Summary.add_empty]

theorem map_path_turnsAmid (w : World) (paths : List FilePath) :
    (turnsAmid b editors o others w paths).map Turn.path = paths := by
  induction paths generalizing w with
  | nil => rfl
  | cons path rest ih => rw [turnsAmid, List.map_cons, ih]

/-- A turn is a run on its path in the store as it was then. -/
theorem run_of_mem_turnsAmid {w : World} {paths : List FilePath} {t : Turn World}
    (ht : t ∈ turnsAmid b editors o others w paths) :
    t.run = processFile b editors o t.before t.path := by
  induction paths generalizing w with
  | nil => cases ht
  | cons path rest ih =>
    rcases List.mem_cons.mp ht with rfl | ht
    · rfl
    · exact ih ht

/-- A run leaves the store as it is if all its turns do. -/
theorem world_of_turns {w : World} {paths : List FilePath}
    (h : ∀ t ∈ turnsAmid b editors o id w paths, t.run.world = t.before) :
    (processFiles b editors o w paths).world = w := by
  induction paths generalizing w with
  | nil => rfl
  | cons path rest ih =>
    rw [turnsAmid, List.forall_mem_cons] at h
    obtain ⟨hpath, hrest⟩ := h
    rw [processFiles_cons]
    exact (ih hrest).trans hpath

end

end TagEdit
