import TagEdit.Batch

/-!
# Tracks in memory

A store of tracks that are held in memory. Opening a track hands out a copy of
it, edits are made to the copy, and saving puts the copy back. A track may
refuse to be opened or to be saved.
-/

namespace TagEdit

open TagEdit.Path

structure Track where
  path : FilePath
  duration : Duration := .zero
  fields : Field → Option Text := fun _ => none
  openError : Option TagError := none
  saveError : Option TagError := none
  /-- How often the track was saved. -/
  saves : Nat := 0
  /-- How often its length was stored. -/
  lengthUpdates : Nat := 0

namespace Track

def get (t : Track) (f : Field) : Text := (t.fields f).getD []

/-- Stores a value; an empty one removes the field. -/
def set (t : Track) (f : Field) (value : Text) : Track :=
  { t with fields := fun g =>
      if g = f then if value.isEmpty then none else some value else t.fields g }

end Track

/-- The tracks of a store, each path once. -/
abbrev TrackStore := List Track

namespace TrackStore

/-- The error of a path that names no track. -/
def unknownPath : TagError := .io "No such file".toList

def find? (s : TrackStore) (p : FilePath) : Option Track := List.find? (fun t => same t.path p) s

/-- Puts a track in place of the one with the same path, or at the end. -/
def put (s : TrackStore) (t : Track) : TrackStore :=
  if s.any fun u => same u.path t.path then
    s.map fun u => if same u.path t.path then { t with path := u.path } else u
  else s ++ [t]

/-- The store of some tracks, of which a later one replaces an earlier one. -/
def ofTracks (ts : List Track) : TrackStore := ts.foldl put []

def sorted (s : TrackStore) : List Track :=
  s.mergeSort fun a b => compareFiles a.path b.path != .gt

def openTrack (p : FilePath) (s : TrackStore) : Except TagError Track :=
  match s.find? p with
  | none => .error unknownPath
  | some t => t.openError.elim (.ok t) .error

def saveTrack (t : Track) (s : TrackStore) : Except TagError TrackStore :=
  match t.saveError with
  | some e => .error e
  | none => .ok (s.put { t with saves := t.saves + 1 })

def backend : Backend TrackStore Track where
  openFile := openTrack
  get := Track.get
  set := Track.set
  duration := Track.duration
  updateLength t := { t with lengthUpdates := t.lengthUpdates + 1 }
  save := saveTrack

end TrackStore

end TagEdit
