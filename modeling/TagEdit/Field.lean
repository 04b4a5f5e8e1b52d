/-!
# The editable fields

The seven text slots of a tag. Their order here is the order in which every
file is processed, title first and year last.
-/

namespace TagEdit

/-- A text slot of a tag. -/
inductive Field where
  | title
  | artist
  | album
  | genre
  | track
  | comment
  | year
  deriving DecidableEq, Repr

namespace Field

/-- Every field, in processing order. -/
def all : List Field := [title, artist, album, genre, track, comment, year]

def index : Field → Nat
  | title => 0
  | artist => 1
  | album => 2
  | genre => 3
  | track => 4
  | comment => 5
  | year => 6

/-- The lower-case name, as flags and error messages write it. -/
def name : Field → String
  | title => "title"
  | artist => "artist"
  | album => "album"
  | genre => "genre"
  | track => "track"
  | comment => "comment"
  | year => "year"

/-- The capitalised name, as reports write it. -/
def label : Field → String
  | title => "Title"
  | artist => "Artist"
  | album => "Album"
  | genre => "Genre"
  | track => "Track"
  | comment => "Comment"
  | year => "Year"

def ofName? (s : String) : Option Field := all.find? (·.name == s)

@[simp] theorem mem_all (f : Field) : f ∈ all := by cases f <;> simp [all]

theorem all_nodup : all.Nodup := by decide

theorem getElem_all_index (f : Field) : all[f.index]? = some f := by cases f <;> rfl

theorem index_inj {f g : Field} (h : f.index = g.index) : f = g := by
  have hsome : some f = some g := by rw [← getElem_all_index, h, getElem_all_index]
  exact Option.some.inj hsome

end Field

end TagEdit
