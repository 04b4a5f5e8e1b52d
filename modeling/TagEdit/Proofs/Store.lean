import TagEdit.TrackStore

/-!
# Tracks and their paths

Two spellings of a path name the same track if they have the same components.
Putting back a track that was found replaces what its path names and leaves
every other track in place.
-/

namespace TagEdit

open TagEdit.Path

/-! ## Spellings of a path -/

namespace Path

theorem same_iff {p q : FilePath} : same p q = true ↔ components p = components q := beq_iff_eq

theorem same_congr {p q : FilePath} (h : same p q = true) (r : FilePath) :
    same r p = same r q := by
  rw [same, same, same_iff.mp h]

end Path

namespace TrackStore

/-- The tracks that a path does not name. -/
def others (s : TrackStore) (p : FilePath) : TrackStore := s.filter fun t => !same t.path p

theorem same_of_find? {s : TrackStore} {p : FilePath} {t : Track} (h : s.find? p = some t) :
    same t.path p = true := by
  unfold find? at h
  exact List.find?_some (p := fun u : Track => same u.path p) h

/-- Paths that lead to the same track are spellings of its path. -/
theorem same_of_found {s : TrackStore} {p q : FilePath} {t : Track} (hp : s.find? p = some t)
    (hq : s.find? q = some t) : same p q = true :=
  same_iff.mpr ((same_iff.mp (same_of_find? hp)).symm.trans (same_iff.mp (same_of_find? hq)))

theorem saveTrack_of_some {t : Track} {e : TagError} (h : t.saveError = some e)
    (s : TrackStore) : saveTrack t s = .error e := by
  simp only [saveTrack, h]

theorem saveTrack_of_none {t : Track} (h : t.saveError = none) (s : TrackStore) :
    saveTrack t s = .ok (s.put { t with saves := t.saves + 1 }) := by
  unfold saveTrack
  split
  · rename_i he
    rw [h] at he
    cases he
  · rfl

/-- What another path names is found among the others. -/
theorem find?_eq_of_others {s u : TrackStore} {p q : FilePath} (hpq : same q p = false)
    (h : s.others p = u.others p) : s.find? q = u.find? q := by
  have hskip : ∀ s : TrackStore, (s.others p).find? q = s.find? q := by
    intro s
    show List.find? _ (List.filter _ s) = List.find? _ s
    rw [List.find?_filter]
    refine congrArg (List.find? · s) (funext fun t => ?_)
    by_cases hq : same t.path q = true
    · have hp : same t.path p = false := by
        rw [← hpq, same, same, same_iff.mp hq]
      simp [hp, hq]
    · simp [hq]
  rw [← hskip s, h, hskip u]

section

variable {s : TrackStore} {p : FilePath} {t u : Track}

/-- What putting a track in place of a found one does to each track. -/
theorem put_eq_map (hs : s.find? p = some t) (hu : u.path = t.path) :
    s.put u = s.map fun v => if same v.path p then { u with path := v.path } else v := by
  have hp := same_of_find? hs
  have hany : (s.any fun v => same v.path u.path) = true :=
    List.any_eq_true.mpr ⟨t, List.mem_of_find?_eq_some hs, by rw [hu]; exact beq_self_eq_true _⟩
  unfold put
  rw [if_pos hany]
  simp only [hu, same_congr hp]

/-- A track that was put back is found. -/
theorem find?_put (hs : s.find? p = some t) (hu : u.path = t.path) :
    (s.put u).find? p = some u := by
  have hpath : ∀ v : Track,
      same (if same v.path p then { u with path := v.path } else v).path p = same v.path p := by
    intro v
    split <;> rfl
  rw [put_eq_map hs hu]
  show List.find? _ (List.map _ _) = _
  rw [List.find?_map]
  simp only [Function.comp_def, hpath]
  show Option.map _ (s.find? p) = _
  rw [hs, Option.map_some, if_pos (same_of_find? hs), ← hu]

/-- The other tracks are left as they are. -/
theorem others_put (hs : s.find? p = some t) (hu : u.path = t.path) :
    (s.put u).others p = s.others p := by
  have hpath : ∀ v : Track,
      same (if same v.path p then { u with path := v.path } else v).path p = same v.path p := by
    intro v
    split <;> rfl
  rw [put_eq_map hs hu, others, List.filter_map]
  simp only [Function.comp_def, hpath]
  refine (List.map_congr_left fun v hv => ?_).trans (List.map_id _)
  have hv := (List.mem_filter.mp hv).2
  exact if_neg (by simpa using hv)

/-- Tracks that are put back under different paths may be put back in either order. -/
theorem put_comm {q : FilePath} {t' u' : Track} (hpq : same q p = false)
    (hs : s.find? p = some t) (hs' : s.find? q = some t') (hu : u.path = t.path)
    (hu' : u'.path = t'.path) : (s.put u).put u' = (s.put u').put u := by
  have hqp : same p q = false := by
    rw [← hpq]
    exact BEq.comm
  have hfind : (s.put u').find? p = some t :=
    (find?_eq_of_others hqp (others_put hs' hu')).trans hs
  have hfind' : (s.put u).find? q = some t' :=
    (find?_eq_of_others hpq (others_put hs hu)).trans hs'
  rw [put_eq_map hfind' hu', put_eq_map hs hu, put_eq_map hfind hu, put_eq_map hs' hu',
    List.map_map, List.map_map]
  refine List.map_congr_left fun v _ => ?_
  by_cases hp : same v.path p = true
  · have hq : same v.path q = false := by
      rw [← hqp, same, same, same_iff.mp hp]
    simp [hp, hq]
  · simp only [Bool.not_eq_true] at hp
    by_cases hq : same v.path q = true <;> simp [hp, hq]

end

end TrackStore

end TagEdit
