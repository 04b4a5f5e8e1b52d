import Mathlib.Data.List.TakeWhile
import TagEdit.Script.Eval

/-!
# File names and stems

The file name of a path is its last part, unless that leads upwards; a part is what stands between
two slashes, where that is neither empty nor a single dot. A file name is a path of one part and so
its own file name. The last dot of a name, if it does not open the name, divides the stem from the
extension.
-/

namespace TagEdit

namespace Path

open Symbols

variable {α : Type} [DecidableEq α] [Symbols α]

/-! ## Parts -/

/-- The pieces are what stands between the slashes. -/
theorem pieces_eq_splitOn (path : List α) : pieces path = path.splitOn slash := by
  induction path with
  | nil => rfl
  | cons c path ih =>
    rw [pieces, List.splitOn_cons_eq_if_modifyHead, ← ih]
    by_cases hc : c = slash
    · rw [if_pos hc, if_pos (beq_iff_eq.mpr hc)]
    · rw [if_neg hc, if_neg (mt eq_of_beq hc)]
      have hne : pieces path ≠ [] := ih ▸ List.splitOn_ne_nil slash path
      obtain ⟨p, ps, hps⟩ := List.exists_cons_of_ne_nil hne
      rw [hps]
      rfl

/-- A sequence without slashes is one piece. -/
theorem pieces_of_not_mem {p : List α} (h : slash ∉ p) : pieces p = [p] := by
  rw [pieces_eq_splitOn, List.splitOn_eq_singleton h]

theorem not_mem_of_mem_pieces {path piece : List α} (h : piece ∈ pieces path) : slash ∉ piece := by
  induction path generalizing piece with
  | nil =>
    obtain rfl := List.mem_singleton.mp h
    exact List.not_mem_nil
  | cons c path ih =>
    rw [pieces] at h
    split at h
    · rcases List.mem_cons.mp h with rfl | h
      · exact List.not_mem_nil
      · exact ih h
    · rename_i hc
      split at h
      · obtain rfl := List.mem_singleton.mp h
        exact List.not_mem_cons_of_ne_of_not_mem (Ne.symm hc) List.not_mem_nil
      · rename_i p ps hps
        rcases List.mem_cons.mp h with rfl | h
        · exact List.not_mem_cons_of_ne_of_not_mem (Ne.symm hc) (ih (hps ▸ List.mem_cons_self))
        · exact ih (hps ▸ List.mem_cons_of_mem p h)

/-- What stands between two slashes and counts: it is neither empty nor a single dot. -/
def IsPart (piece : List α) : Prop := piece ≠ [] ∧ piece ≠ [dot]

instance (piece : List α) : Decidable (IsPart piece) := inferInstanceAs (Decidable (_ ∧ _))

/-- The last part of a path. -/
def lastPart? (path : List α) : Option (List α) := ((path.splitOn slash).filter (IsPart ·)).getLast?

/-- The component that a part stands for. -/
def ofPart (part : List α) : Component α := if part = [dot, dot] then .parent else .name part

theorem component?_eq (piece : List α) :
    component? piece = if IsPart piece then some (ofPart piece) else none := by
  by_cases hpart : IsPart piece
  · rw [component?, if_neg (not_or.mpr hpart), if_pos hpart, ofPart]
    split <;> rfl
  · have hnone : piece = [] ∨ piece = [dot] := Decidable.not_not.mp (mt not_or.mp hpart)
    rw [component?, if_pos hnone, if_neg hpart]

theorem filterMap_component? (ps : List (List α)) :
    ps.filterMap component? = (ps.filter (IsPart ·)).map ofPart := by
  induction ps with
  | nil => rfl
  | cons p ps ih =>
    rw [List.filterMap_cons, component?_eq, ih]
    by_cases hp : IsPart p <;> simp [hp]

/-- What stands in front of the components of the parts is no name. -/
theorem exists_components_eq (path : List α) :
    ∃ front : List (Component α), (∀ n, front.getLast? ≠ some (.name n)) ∧
      components path = front ++ ((path.splitOn slash).filter (IsPart ·)).map ofPart := by
  rw [← pieces_eq_splitOn, ← filterMap_component?]
  unfold components
  dsimp only
  split
  · exact ⟨[.root], nofun, rfl⟩
  split
  · exact ⟨[.current], nofun, rfl⟩
  · exact ⟨[], nofun, rfl⟩

/-! ## File names -/

/-- The file name is the last part, unless that leads upwards. -/
theorem fileName?_eq (path : List α) :
    fileName? path = (lastPart? path).filter (· ≠ [dot, dot]) := by
  obtain ⟨front, hfront, hcomponents⟩ := exists_components_eq path
  rw [fileName?, hcomponents, List.getLast?_append, List.getLast?_map, ← lastPart?]
  cases lastPart? path with
  | none =>
    cases hlast : front.getLast? with
    | none => rfl
    | some c =>
      cases c with
      | name n => exact absurd hlast (hfront n)
      | _ => rfl
  | some part =>
    rw [Option.map_some, Option.some_or, Option.filter_some, ofPart]
    by_cases hpart : part = [dot, dot] <;> simp [hpart]

variable {path name : List α}

/-- A sequence that is a file name. -/
structure IsFileName (name : List α) : Prop where
  isPart : IsPart name
  ne_parent : name ≠ [dot, dot]
  no_slash : slash ∉ name

theorem isFileName_of_fileName? (h : fileName? path = some name) : IsFileName name := by
  rw [fileName?_eq] at h
  obtain ⟨hlast, hparent⟩ := Option.filter_eq_some_iff.mp h
  have hmem := List.mem_of_getLast? hlast
  obtain ⟨hpiece, hpart⟩ := List.mem_filter.mp hmem
  rw [← pieces_eq_splitOn] at hpiece
  exact ⟨of_decide_eq_true hpart, of_decide_eq_true hparent, not_mem_of_mem_pieces hpiece⟩

/-- A file name is a path of which it is the file name. -/
theorem IsFileName.fileName?_eq (h : IsFileName name) : fileName? name = some name := by
  have hlast : lastPart? name = some name := by
    rw [lastPart?, List.splitOn_eq_singleton h.no_slash]
    simp [h.isPart]
  rw [Path.fileName?_eq, hlast]
  exact Option.filter_some_pos (decide_eq_true h.ne_parent)

theorem fileName?_baseName (path : List α) : fileName? (baseName path) = fileName? path := by
  rw [baseName]
  cases h : fileName? path with
  | none => rfl
  | some name => exact (isFileName_of_fileName? h).fileName?_eq

/-- The base name is the last part, or empty where there is none or that leads upwards. -/
theorem baseName_eq (path : List α) :
    baseName path =
      (lastPart? path).elim [] fun last => if last = [dot, dot] then [] else last := by
  rw [baseName, fileName?_eq]
  cases lastPart? path with
  | none => rfl
  | some part =>
    rw [Option.filter_some]
    by_cases hpart : part = [dot, dot] <;> simp [hpart]

theorem slash_not_mem_baseName (path : List α) : slash ∉ baseName path := by
  rw [baseName]
  cases h : fileName? path with
  | none => exact List.not_mem_nil
  | some name => exact (isFileName_of_fileName? h).no_slash

theorem baseName_baseName (path : List α) : baseName (baseName path) = baseName path := by
  rw [baseName, fileName?_baseName, ← baseName]

theorem stem_baseName (path : List α) : stem (baseName path) = stem path := by
  rw [stem, fileName?_baseName, ← stem]

/-! ## Stems -/

theorem nameStem_of_not_mem (h : dot ∉ name) : nameStem name = name := by
  have hdrop : name.reverse.dropWhile (· != dot) = [] := by
    rw [List.dropWhile_eq_nil_iff]
    intro c hc
    exact bne_iff_ne.mpr fun hdot => h (hdot ▸ List.mem_reverse.mp hc)
  rw [nameStem, hdrop]
  rfl

/-- The last dot of a name divides it, unless it opens the name. -/
theorem nameStem_append {before ext : List α} (h : dot ∉ ext) :
    nameStem (before ++ dot :: ext) = if before = [] then dot :: ext else before := by
  have hreverse : (before ++ dot :: ext).reverse = ext.reverse ++ dot :: before.reverse := by simp
  have hpos : ∀ c ∈ ext.reverse, (c != dot) = true := fun c hc =>
    bne_iff_ne.mpr fun hdot => h (hdot ▸ List.mem_reverse.mp hc)
  rw [nameStem, hreverse, List.dropWhile_append_of_pos hpos,
    List.dropWhile_cons_of_neg (by simp), List.drop_one, List.tail_cons]
  cases before with
  | nil => rfl
  | cons c before =>
    obtain ⟨d, ds, hrev⟩ := List.exists_cons_of_ne_nil (List.reverse_ne_nil_iff.mpr
      (List.cons_ne_nil c before))
    rw [hrev, if_neg (List.cons_ne_nil c before), ← List.reverse_reverse (c :: before), hrev]

omit [DecidableEq α] in
theorem exists_last_dot (h : dot ∈ name) :
    ∃ before ext, name = before ++ dot :: ext ∧ dot ∉ ext := by
  obtain ⟨ext, before, hname, hext⟩ := List.eq_append_cons_of_mem (List.mem_reverse.mpr h)
  refine ⟨before.reverse, ext.reverse, ?_, mt List.mem_reverse.mp hext⟩
  rw [← List.reverse_reverse name, hname]
  simp

/-- The stem is the whole of a name whose only dot may open it, and else what stands before its last
dot. -/
theorem nameStem_spec (name : List α) :
    if dot ∈ name.drop 1 then ∃ ext, dot ∉ ext ∧ name = nameStem name ++ dot :: ext
    else nameStem name = name := by
  by_cases hdot : dot ∈ name
  · obtain ⟨before, ext, rfl, hext⟩ := exists_last_dot hdot
    rw [nameStem_append hext]
    cases before with
    | nil => simp [hext]
    | cons c before => simp [hext]
  · rw [if_neg fun h => hdot (List.mem_of_mem_drop h), nameStem_of_not_mem hdot]

theorem stem_eq_nameStem (path : List α) : stem path = nameStem (baseName path) := by
  rw [stem, baseName]
  cases fileName? path with
  | none => exact (nameStem_of_not_mem List.not_mem_nil).symm
  | some name => rfl

end Path

namespace Script

/-- The path functions agree on whatever text they are given. A base name holds no slash, is its own
base name and has the stem of the path; it is the last part of the path, or empty where there is
none or that leads upwards. The stem is the base name up to its last dot, or all of it where there
is no dot behind its first character. -/
theorem basename_and_stem_agree (value : Text) (ctx : Context) (e : Expr) :
    let s := e.eval value ctx
    let base := (Expr.call .basename e).eval value ctx
    let stem := (Expr.call .stem e).eval value ctx
    '/' ∉ base ∧
      (Expr.call .basename (.call .basename e)).eval value ctx = base ∧
      (Expr.call .stem (.call .basename e)).eval value ctx = stem ∧
      base = ((s.splitOn '/').filter fun part => part ≠ [] ∧ part ≠ ['.']).getLast?.elim []
        (fun last => if last = ['.', '.'] then [] else last) ∧
      if '.' ∈ base.drop 1 then ∃ ext, '.' ∉ ext ∧ base = stem ++ '.' :: ext else stem = base := by
  intro s base stem
  have hstem : stem = Path.nameStem base := Path.stem_eq_nameStem s
  exact ⟨Path.slash_not_mem_baseName s, Path.baseName_baseName s, Path.stem_baseName s,
    Path.baseName_eq s, hstem ▸ Path.nameStem_spec base⟩

end Script

end TagEdit
