import Mathlib.Data.List.TakeWhile
import TagEdit.Proofs.Decimals
import TagEdit.Script.Eval

/-!
# Lengths and seconds

A script sees the length of a file as minutes and seconds and its duration as a number of whole
seconds. The seconds can be read off the length again, so neither says anything that the other does
not say.
-/

namespace TagEdit

open Text

namespace Duration

/-- A text shows a number of seconds as minutes, a colon and two digits for what is left of the last
minute. -/
inductive Shows : Text → Nat → Prop where
  | intro {minutes : Text} {a b : Char} {m s : Nat} (hminutes : Writes minutes m)
      (ha : a.isDigit = true) (hb : b.isDigit = true) (hvalue : placeValue [a, b] = s)
      (hs : s < 60) : Shows (minutes ++ [':', a, b]) (m * 60 + s)

/-- The number of seconds that a text with a colon stands for: what is in front of the colon counts
sixty times as much as what is behind it. -/
def readBack (t : Text) : Nat :=
  placeValue (t.takeWhile (· != ':')) * 60 + placeValue ((t.dropWhile (· != ':')).drop 1)

variable {t : Text} {n : Nat}

theorem Shows.readBack_eq (h : Shows t n) : readBack t = n := by
  cases h with
  | intro hminutes ha hb hvalue hs =>
    have hcolon : ∀ c ∈ _, (c != ':') = true := fun c hc => bne_iff_ne.mpr fun heq =>
      not_mem_of_digits (by decide) hminutes.digits (heq ▸ hc)
    rw [readBack, List.takeWhile_append_of_pos hcolon, List.dropWhile_append_of_pos hcolon,
      ← hminutes.value, ← hvalue]
    simp

/-- A number below a hundred is written with two digits. -/
theorem pad_eq {s : Nat} (hs : s < 100) :
    (if s < 10 then '0' :: decimal s else decimal s) =
      [(s / 10).digitChar, (s % 10).digitChar] := by
  split
  · rename_i hlt
    rw [decimal_of_lt hlt, Nat.div_eq_of_lt hlt, Nat.mod_eq_of_lt hlt]
    rfl
  · have hconcat := decimal_concat (m := s / 10) (d := s % 10) (by omega) (by omega)
    rw [Nat.div_add_mod, decimal_of_lt (n := s / 10) (by omega)] at hconcat
    exact hconcat

theorem shows_format (n : Nat) : Shows (format n) n := by
  have hdiv : n % 60 / 10 < 10 := by omega
  have hmod : n % 60 % 10 < 10 := by omega
  have hvalue : placeValue [(n % 60 / 10).digitChar, (n % 60 % 10).digitChar] = n % 60 := by
    have hconcat := placeValue_concat [(n % 60 / 10).digitChar] (n % 60 % 10).digitChar
    rw [placeValue_singleton, digitValue_digitChar hdiv, digitValue_digitChar hmod,
      Nat.div_add_mod] at hconcat
    exact hconcat
  have hshows := Shows.intro (writes_decimal (n / 60)) (isDigit_digitChar hdiv)
    (isDigit_digitChar hmod) hvalue (Nat.mod_lt n (by decide))
  rw [Nat.mul_comm, Nat.div_add_mod] at hshows
  rw [format, pad_eq (s := n % 60) (by omega)]
  exact hshows

/-- A length can be read back, so it belongs to one number of seconds only. -/
theorem format_inj {m n : Nat} : format m = format n ↔ m = n := by
  refine ⟨fun h => ?_, fun h => by rw [h]⟩
  rw [← (shows_format m).readBack_eq, h, (shows_format n).readBack_eq]

end Duration

namespace Script

/-- The length that scripts see is made of minutes, a colon and two digits of seconds, and the
seconds that are read off it are the whole seconds of the duration, as scripts see them too. So
durations have the same length if they have the same whole seconds, and only then. -/
theorem length_tells_seconds (file value : Text) (d : Duration) :
    let ctx := Context.ofFile file d
    ctx.seconds = d.nanos / 1000000000 ∧
    Duration.Shows ctx.length ctx.seconds ∧
    Duration.readBack ctx.length = ctx.seconds ∧
    Duration.readBack (Var.length.read value ctx) = placeValue (Var.seconds.read value ctx) ∧
    ∀ (other : Text) (d' : Duration), (Context.ofFile other d').length = ctx.length ↔
      d'.nanos / 1000000000 = d.nanos / 1000000000 := by
  intro ctx
  have hshows : Duration.Shows ctx.length ctx.seconds := Duration.shows_format ctx.seconds
  refine ⟨rfl, hshows, hshows.readBack_eq, ?_, fun other d' => ?_⟩
  · exact hshows.readBack_eq.trans (writes_decimal ctx.seconds).value.symm
  · exact Duration.format_inj

end Script

end TagEdit
