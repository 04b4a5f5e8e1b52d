import TagEdit.Proofs.Chaining
import TagEdit.Proofs.Substitution

/-!
# Printable characters

The fragment `asciiOnly` leaves the printable ASCII characters of a value. To put the empty text in
place of every character of a set is to filter the value, as every match is one character of the set
and no such character stands between matches.
-/

namespace TagEdit

/-! ## Sets of characters -/

namespace Regex

variable {s : Unicode.CharSet} {t : Text} {i : Nat}

theorem begins_set_iff : (Node.set s).Begins t i ↔
    ∃ c rest, t.drop i = c :: rest ∧ s.contains c = true := by
  constructor
  · rintro ⟨_, c, rest, hrest, hc, -⟩
    exact ⟨c, rest, (rest_place t i).symm.trans hrest, hc⟩
  · rintro ⟨c, rest, hrest, hc⟩
    exact ⟨_, c, rest, (rest_place t i).trans hrest, hc, rfl⟩

/-- A match of a set is one character of it. -/
theorem Match.IsOf.of_set {m : Match} (h : m.IsOf (.set s) t) :
    ∃ c, t.drop m.start = c :: t.drop m.stop ∧ s.contains c = true := by
  obtain ⟨noted, ⟨c, rest, hrest, hc, hspot⟩, -⟩ := h.matches_node
  refine ⟨c, ?_, hc⟩
  have hstop : place t m.stop = (place t m.start).advance := congrArg Prod.fst hspot
  rw [← rest_place, ← rest_place, hstop, Cursor.advance_of_cons hrest]
  exact hrest

/-- What no match begins in has no character of the set. -/
theorem filter_slice_of_not_begins {j : Nat} (hij : i ≤ j) (hj : j ≤ t.length)
    (h : ∀ e, i ≤ e → e < j → ¬ (Node.set s).Begins t e) :
    (slice t i j).filter (fun c => !s.contains c) = slice t i j := by
  refine List.filter_eq_self.mpr fun c hc => ?_
  obtain ⟨d, hd, hget⟩ := List.mem_iff_getElem.mp hc
  simp only [slice, List.length_take, List.length_drop] at hd
  simp only [slice, List.getElem_take, List.getElem_drop] at hget
  have hne := h (i + d) (by omega) (by omega)
  rw [begins_set_iff] at hne
  rw [Bool.not_eq_eq_eq_not, Bool.not_true, ← Bool.not_eq_true]
  have hdrop : t.drop (i + d) = c :: t.drop (i + d + 1) := by
    rw [List.drop_eq_getElem_cons (by omega), hget]
  exact fun hcontains => hne ⟨c, _, hdrop, hcontains⟩

/-- Without its matches a text is what does not belong to the set. -/
theorem Successive.splice_set {last : Option Nat} {ms : List Match}
    (h : Successive (.set s) t i last ms) (hi : i ≤ t.length) :
    splice t (fun _ => []) i ms = (t.drop i).filter fun c => !s.contains c := by
  -- No match of a set is empty, so that the search always goes on where the last match ends.
  have hresumes : ∀ {i j last}, Resumes (.set s) t i last j → j = i := by
    intro i j last h
    cases h with
    | here => rfl
    | passed hm hstart hstop =>
      obtain ⟨c, hdrop, -⟩ := hm.of_set
      rw [hstart, hstop] at hdrop
      exact absurd hdrop (List.cons_ne_self _ _).symm
  induction h with
  | @done i j last hres hnone =>
    obtain rfl := hresumes hres
    have hall := filter_slice_of_not_begins hi (Nat.le_refl _)
      fun e he hlt => hnone e he (Nat.le_of_lt hlt)
    rw [splice, drop_eq_slice_append hi, List.drop_length, List.append_nil, hall]
  | @next i j last m ms hres hfirst _ _ ih =>
    obtain rfl := hresumes hres
    obtain ⟨c, hdrop, hc⟩ := hfirst.of_set
    rw [splice, ih hfirst.stop_le, drop_eq_slice_append hfirst.le_start, hdrop, List.filter_append,
      filter_slice_of_not_begins hfirst.le_start hfirst.start_le_length hfirst.leftmost,
      List.filter_cons, hc]
    simp

end Regex

/-! ## The fragment -/

/-- A printable ASCII character. -/
def isPrintable (c : Char) : Bool := decide (0x20 ≤ c.toNat ∧ c.toNat ≤ 0x7E)

namespace Script

open Regex

/-- The pattern of what is not printable. -/
def notPrintable : Text := ['[', '^', '\\', 'x', '2', '0', '-', '\\', 'x', '7', 'E', ']']

theorem contains_notPrintable (c : Char) :
    (⟨[(0, 0x1F), (0x7F, 0x10FFFF)]⟩ : Unicode.CharSet).contains c = !isPrintable c := by
  have hle : c.toNat ≤ 0x10FFFF := by
    rcases c.valid with h | h <;> unfold Char.toNat <;> omega
  simp only [Unicode.CharSet.contains, Unicode.CharSet.memCode, Unicode.CharSet.memRanges,
    isPrintable, hle]
  grind

theorem eq_set_of_same {n : Node} {s : Unicode.CharSet} (h : n.same (.set s) = true) :
    n = .set s := by
  cases n with
  | set t => rw [eq_of_beq h]
  | _ => cases h

theorem nodeOf_notPrintable : nodeOf (optionsOf ['g']) notPrintable =
    .ok (.set ⟨[(0, 0x1F), (0x7F, 0x10FFFF)]⟩) := by
  have hsame : (nodeOf (optionsOf ['g']) notPrintable).toOption.any
      (·.same (.set ⟨[(0, 0x1F), (0x7F, 0x10FFFF)]⟩)) = true := by decide +kernel
  cases hnode : nodeOf (optionsOf ['g']) notPrintable with
  | error e =>
    rw [hnode] at hsame
    cases hsame
  | ok n =>
    rw [hnode] at hsame
    rw [eq_set_of_same hsame]

theorem clean_notPrintable : Clean '/' notPrintable :=
  have hupper : Clean '/' (['2', '0', '-'] ++ '\\' :: 'x' :: ['7', 'E', ']']) :=
    (clean_of_forall (by simp)).append (.escape 'x' (clean_of_forall (by simp)))
  .char (by decide) (by decide) (.char (by decide) (by decide) (.escape 'x' hupper))

theorem lexes_asciiOnly : Lexes asciiOnly [.subst notPrintable [] ['g']] := by
  have hsource : asciiOnly = 's' :: '/' :: (notPrintable ++ '/' :: ([] ++ ['/', 'g'])) := by decide
  have hflags : ∀ c ∈ ['g'], c.isAlpha = true := List.forall_mem_singleton.mpr rfl
  rw [hsource]
  exact .token (by decide) (scan_subst (by decide) clean_notPrintable .nil hflags) .nil

/-- The fragment is a substitution of nothing for every character that is not printable. -/
theorem exists_parse_asciiOnly : ∃ r : Regex, r.Runs (.set ⟨[(0, 0x1F), (0x7F, 0x10FFFF)]⟩) ∧
    Script.parse asciiOnly = .ok [⟨.substitute r [] true, none⟩] := by
  obtain ⟨r, hr⟩ := exists_of_isOk
    (r := Regex.build (optionsOf ['g']) notPrintable) (by decide +kernel)
  obtain ⟨n, hn, hruns⟩ := exists_node_of_build hr
  obtain rfl := Except.ok.inj (nodeOf_notPrintable.symm.trans hn)
  have hbuilds : Builds substFlags notPrintable ['g'] r := ⟨by simp [substFlags], hr⟩
  have htemplate : Template.parse true [] = .ok [] := by rw [Template.parse]
  exact ⟨r, hruns, parse_of_lexes lexes_asciiOnly
    (.last (.some (.bare (.substitute hbuilds htemplate))))⟩

end Script

namespace Editor

/-- The fragment leaves the printable characters. -/
theorem exists_compile_asciiOnly (field : Field) :
    ∃ e, compile field [.expression asciiOnly] = .ok e ∧
      ∀ ctx value, e.apply ctx value = value.filter isPrintable := by
  obtain ⟨r, hruns, hparse⟩ := Script.exists_parse_asciiOnly
  refine ⟨_, compile_expression hparse field, fun ctx value => ?_⟩
  rw [apply_run_singleton]
  show r.replace true value (fun _ => []) = _
  have hall := (Regex.successive_allMatches hruns value).splice_set (Nat.zero_le _)
  rw [Script.replace_eq_splice, Script.replaced, if_pos rfl, hall, List.drop_zero]
  simp only [Script.contains_notPrintable, Bool.not_not]

/-- The fragment `asciiOnly` leaves exactly the printable ASCII characters of a value. At the end of
a chain that does not come to a `last` it leaves those of the result of the chain. -/
theorem asciiOnly_leaves_printable (field : Field) :
    (∃ e, compile field [.expression asciiOnly] = .ok e ∧
      ∀ ctx value, e.apply ctx value = value.filter isPrintable) ∧
    ∀ fs a, compile field fs = .ok a →
      ∃ e, compile field (fs ++ [.expression asciiOnly]) = .ok e ∧
        ∀ ctx value, ¬ a.ReachesLast ctx value →
          e.apply ctx value = (a.apply ctx value).filter isPrintable ∧
          ∀ c ∈ e.apply ctx value, 0x20 ≤ c.toNat ∧ c.toNat ≤ 0x7E := by
  obtain ⟨b, hb, happly⟩ := exists_compile_asciiOnly field
  refine ⟨⟨b, hb, happly⟩, fun fs a ha => ?_⟩
  refine ⟨⟨field, a.steps ++ b.steps⟩, ?_, fun ctx value hlast => ?_⟩
  · rw [compile_append, ha, hb]
    rfl
  · have hresult := apply_append_of_not_reachesLast (b := b) hlast field
    rw [happly] at hresult
    refine ⟨hresult, fun c hc => ?_⟩
    rw [hresult] at hc
    simpa [isPrintable] using (List.mem_filter.mp hc).2

/-- A literal with a letter beyond ASCII and a tab. -/
theorem asciiOnly_leaves_printable_literal :
    let fs : List Fragment := [.literal "Bj\u00f6rk\tlive".toList]
    ∃ a, compile .title fs = .ok a ∧ (∀ ctx value, ¬ a.ReachesLast ctx value) ∧
      ∃ e, compile .title (fs ++ [.expression asciiOnly]) = .ok e ∧
        ∀ ctx value, e.apply ctx value = "Bjrklive".toList := by
  intro fs
  have hfs : compile .title fs = .ok ⟨.title, [.set "Bj\u00f6rk\tlive".toList]⟩ := rfl
  obtain ⟨e, he, happly⟩ := (asciiOnly_leaves_printable .title).2 fs _ hfs
  refine ⟨_, hfs, fun ctx value => not_reachesLast_set _ _, e, he, fun ctx value => ?_⟩
  rw [(happly ctx value (not_reachesLast_set _ _)).1]
  show "Bj\u00f6rk\tlive".toList.filter isPrintable = _
  decide +kernel

end Editor

end TagEdit
