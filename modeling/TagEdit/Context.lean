import TagEdit.Text.Basic

/-!
# What scripts know about a file

The path and the duration of the file under edit. A duration is shown as
minutes and seconds; minutes are neither padded nor gathered into hours, and
seconds have two digits.
-/

namespace TagEdit

/-- A length of time in nanoseconds. -/
structure Duration where
  nanos : Nat
  deriving DecidableEq, Repr

namespace Duration

def ofSeconds (s : Nat) : Duration := ⟨s * 1000000000⟩

def ofMillis (ms : Nat) : Duration := ⟨ms * 1000000⟩

def seconds (d : Duration) : Nat := d.nanos / 1000000000

def millis (d : Duration) : Nat := d.nanos / 1000000

def zero : Duration := ⟨0⟩

/-- Minutes, a colon and two digits of seconds. -/
def format (seconds : Nat) : Text :=
  let s := seconds % 60
  Text.decimal (seconds / 60) ++ ':' :: (if s < 10 then '0' :: Text.decimal s else Text.decimal s)

end Duration

/-- The read-only values that scripts see besides the field. -/
structure Context where
  /-- The path of the file, as text. -/
  file : Text
  /-- The duration as minutes and seconds. -/
  length : Text
  /-- The duration in whole seconds. -/
  seconds : Nat
  deriving DecidableEq, Repr

def Context.ofFile (file : Text) (d : Duration) : Context :=
  { file, length := Duration.format d.seconds, seconds := d.seconds }

end TagEdit
