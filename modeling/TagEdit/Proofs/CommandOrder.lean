import TagEdit.Proofs.Arguments
import TagEdit.Proofs.Reading

/-!
# Fragments in command-line order

Whatever the reader accepts is read by the grammar, and whatever the grammar reads has its values
taken in one by one, in order. What the reader holds back (a value that follows its option, files in
a row) is compared after it would be settled: `Took` says which values that adds.
-/

namespace TagEdit

open TagEdit.Path
open Script (exists_of_bind_eq_ok exists_of_map_eq_ok)

namespace Reading

variable {r r' s : Reading} {o : FieldOption} {arg : Bytes} {args : List Bytes} {c : CommandLine}
  {gs : List Given}

/-- No option waits for its value. -/
def NotWaiting (r : Reading) : Prop := ∀ o, r.pending ≠ .value o none

/-- What is held back is accepted. -/
def Settles (r : Reading) : Prop := ∃ s, r.settle = .ok s

/-! ## What is held back -/

theorem settle_of_nothing (h : r.pending = .nothing) : r.settle = .ok r := by
  rw [settle, h]

theorem pending_of_settle (h : r.settle = .ok s) :
    s.pending = .nothing ∧ s.trailing = r.trailing := by
  rw [settle] at h
  split at h
  · rename_i hp
    cases h
    exact ⟨hp, rfl⟩
  · cases h
  · obtain ⟨line, -, rfl⟩ := exists_of_map_eq_ok h
    exact ⟨rfl, rfl⟩
  · split at h
    · cases h
    · cases h
      exact ⟨rfl, rfl⟩

/-- A reader goes on to another, and once both have settled, the other has some more values. -/
structure Took (r : Reading) (gs : List Given) (r' : Reading) : Prop where
  notWaiting : r'.NotWaiting
  trailing : r'.trailing = r.trailing
  adds : ∀ s', r'.settle = .ok s' →
    ∃ s, r.settle = .ok s ∧ s'.line.values = gs.foldl Matches.addGiven s.line.values

theorem Took.refl (hr : r.NotWaiting) : Took r [] r := ⟨hr, rfl, fun s hs => ⟨s, hs, rfl⟩⟩

theorem Took.trans {r'' : Reading} {gs' : List Given} (h : Took r gs r') (h' : Took r' gs' r'') :
    Took r (gs ++ gs') r'' := by
  refine ⟨h'.notWaiting, h'.trailing.trans h.trailing, fun s'' hs'' => ?_⟩
  obtain ⟨s', hs', hvalues'⟩ := h'.adds s'' hs''
  obtain ⟨s, hs, hvalues⟩ := h.adds s' hs'
  exact ⟨s, hs, by rw [hvalues', hvalues, List.foldl_append]⟩

/-- The values of a command line are those of a reader that has settled, and some more. -/
def Ends (r : Reading) (gs : List Given) (c : CommandLine) : Prop :=
  ∃ s, r.settle = .ok s ∧ c.values = gs.foldl Matches.addGiven s.line.values

theorem ends_of_settle (h : r.settle.map Reading.line = .ok c) : r.Ends [] c := by
  obtain ⟨s, hs, rfl⟩ := exists_of_map_eq_ok h
  exact ⟨s, hs, rfl⟩

theorem Took.settles (h : Took r gs r') (hs' : r'.Settles) : r.Settles := by
  obtain ⟨s', hs'⟩ := hs'
  obtain ⟨s, hs, -⟩ := h.adds s' hs'
  exact ⟨s, hs⟩

theorem Took.ends {gs' : List Given} (h : Took r gs r') (he : r'.Ends gs' c) :
    r.Ends (gs ++ gs') c := by
  obtain ⟨s', hs', hvalues'⟩ := he
  obtain ⟨s, hs, hvalues⟩ := h.adds s' hs'
  exact ⟨s, hs, by rw [hvalues', hvalues, List.foldl_append]⟩

/-! ## Options with their values, and switches -/

theorem exists_of_update {f : CommandLine → Except UsageError CommandLine}
    (h : r.update f = .ok r') :
    ∃ s line, r.settle = .ok s ∧ f s.line = .ok line ∧ r' = { s with line } := by
  obtain ⟨s, hs, h⟩ := exists_of_bind_eq_ok h
  obtain ⟨line, hline, h⟩ := exists_of_bind_eq_ok h
  cases h
  exact ⟨s, line, hs, hline, rfl⟩

theorem took_update {f : CommandLine → Except UsageError CommandLine} (h : r.update f = .ok r')
    (hf : ∀ c line, f c = .ok line → line.values = gs.foldl Matches.addGiven c.values) :
    Took r gs r' := by
  obtain ⟨s, line, hs, hline, rfl⟩ := exists_of_update h
  obtain ⟨hpending, htrailing⟩ := pending_of_settle hs
  have hsettled : settle { s with line } = .ok { s with line } := settle_of_nothing hpending
  refine ⟨fun o => ?_, htrailing, fun s' hs' => ⟨s, hs, ?_⟩⟩
  · show s.pending ≠ _
    rw [hpending]
    nofun
  · cases hsettled.symm.trans hs'
    exact hf s.line line hline

theorem values_of_addValue {v : Bytes} {value : Text} {line : CommandLine}
    (hv : Utf8.decode? v = some value) (h : c.addValue o v = .ok line) :
    line.values = c.values.addText o value := by
  rw [CommandLine.addValue, hv] at h
  cases h
  rfl

theorem exists_of_addValue {v : Bytes} {line : CommandLine} (h : c.addValue o v = .ok line) :
    ∃ value, Utf8.decode? v = some value := by
  rw [CommandLine.addValue] at h
  split at h
  · cases h
  · exact ⟨_, ‹_›⟩

theorem values_of_turnOn {sw : Switch} {line : CommandLine} (h : c.turnOn sw = .ok line) :
    line.values = c.values := by
  unfold CommandLine.turnOn at h
  split at h
  · cases h
  · cases h
    rfl

theorem took_attached {v : Bytes} {value : Text} (hv : Utf8.decode? v = some value)
    (h : r.takeAttached v (.field o) = .ok r') : Took r [.text o value] r' :=
  took_update (f := fun c => c.addValue o v) h fun _ _ hline => values_of_addValue hv hline

theorem took_switch {sw : Switch} (h : r.takeOption (.switch sw) = .ok r') : Took r [] r' :=
  took_update (f := fun c => c.turnOn sw) h fun _ _ hline => values_of_turnOn hline

theorem took_ascii (h : r.takeOption .ascii = .ok r') : Took r [.ascii true] r' := by
  refine took_update (f := fun c => c.addAscii none) h fun c line hline => ?_
  cases hline
  rfl

theorem took_asciiEquals {on : Bool}
    (h : r.takeAttached (Utf8.ofString (toString on)) .ascii = .ok r') : Took r [.ascii on] r' := by
  refine took_update (f := fun c => c.addAscii (some (Utf8.ofString (toString on)))) h ?_
  intro c line hline
  cases on <;> cases hline <;> rfl

theorem take_value {v : Bytes} (hr : r.trailing = false) (hp : r.pending = .value o none)
    (hplain : IsPlain v) : r.take v = .ok { r with pending := .value o (some v) } := by
  rw [take_plain hr hplain, takePlain, hp]
  exact if_neg (ne_true_of_eq_false hr)

/-- An option waits for its value, and the next argument is that value. -/
theorem took_next {v : Bytes} {value : Text} (hr : r.trailing = false) (hplain : IsPlain v)
    (hv : Utf8.decode? v = some value) (h : r.takeOption (.field o) = .ok r')
    (hok : r'.takeAll (v :: args) = .ok c) :
    ∃ r'', Took r [.text o value] r'' ∧ r''.takeAll args = .ok c := by
  obtain ⟨s, hs, h⟩ := exists_of_bind_eq_ok h
  cases h
  obtain ⟨-, htrailing⟩ := pending_of_settle hs
  obtain ⟨r'', htake, hok⟩ := exists_of_bind_eq_ok hok
  have hr' := htrailing.trans hr
  have hnext := take_value (r := { s with pending := .value o none }) hr' rfl hplain
  cases hnext.symm.trans htake
  have htook : Took r [.text o value] { s with pending := .value o (some v) } := by
    refine ⟨nofun, htrailing, fun s' hs' => ⟨s, hs, ?_⟩⟩
    obtain ⟨line, hline, rfl⟩ := exists_of_map_eq_ok hs'
    exact values_of_addValue hv hline
  exact ⟨_, htook, hok⟩

/-! ## Files -/

/-- The files that are held back. -/
def held : Pending → List FilePath
  | .files fs => fs
  | _ => []

theorem takePlain_cases (hr : r.NotWaiting) (h : r.takePlain arg = .ok r') :
    (∃ fs, r.pending = .files fs ∧ r' = { r with pending := .files (fs ++ [arg]) }) ∨
      held r.pending = [] ∧ ∃ s, r.settle = .ok s ∧ r' = { s with pending := .files [arg] } := by
  rw [takePlain] at h
  split at h
  · rename_i fs hfs
    cases h
    exact .inl ⟨fs, hfs, rfl⟩
  · rename_i o ho
    exact absurd ho (hr o)
  · rename_i hfiles _
    obtain ⟨s, hs, h⟩ := exists_of_bind_eq_ok h
    cases h
    refine .inr ⟨?_, s, hs, rfl⟩
    rw [held]
    exact hfiles

theorem settle_files {fs : List FilePath} (hp : r.pending = .files fs) (h : r.settle = .ok s) :
    (∀ p ∈ fs, p ≠ []) ∧ s.line.values = r.line.values := by
  rw [settle, hp] at h
  simp only at h
  split at h
  · cases h
  · rename_i hany
    cases h
    refine ⟨fun p hp hempty => hany ?_, rfl⟩
    exact List.any_eq_true.mpr ⟨p, hp, by rw [hempty]; rfl⟩

theorem settles_files {fs : List FilePath} (hp : r.pending = .files fs)
    (h : ∀ p ∈ fs, p ≠ []) : r.Settles := by
  have hany : fs.any List.isEmpty ≠ true := fun hany => by
    obtain ⟨p, hp, hempty⟩ := List.any_eq_true.mp hany
    exact h p hp (List.isEmpty_iff.mp hempty)
  exact ⟨_, by rw [settle, hp]; exact if_neg hany⟩

theorem took_file (hr : r.NotWaiting) (h : r.takePlain arg = .ok r') : Took r [] r' := by
  rcases takePlain_cases hr h with ⟨fs, hfs, rfl⟩ | ⟨-, s, hs, rfl⟩
  · refine ⟨nofun, rfl, fun s' hs' => ?_⟩
    obtain ⟨hall, hvalues'⟩ := settle_files rfl hs'
    obtain ⟨s, hs⟩ := settles_files hfs fun p hp => hall p (List.mem_append_left _ hp)
    exact ⟨s, hs, by rw [hvalues', List.foldl_nil, (settle_files hfs hs).2]⟩
  · refine ⟨nofun, (pending_of_settle hs).2, fun s' hs' => ⟨s, hs, ?_⟩⟩
    exact (settle_files rfl hs').2

/-! ## Arguments of the grammar -/

theorem took_letters {bs : Bytes} {next : List Bytes} {items : List Occurrence}
    (h : Letters bs next items) (hw : r.NotWaiting) (hr : r.trailing = false)
    (htake : r.takeLetters bs = .ok r') (hok : r'.takeAll (next ++ args) = .ok c) :
    ∃ r'', Took r (items.filterMap Occurrence.given?) r'' ∧ r''.takeAll args = .ok c := by
  induction h generalizing r with
  | nil =>
    rw [takeLetters] at htake
    cases htake
    exact ⟨r', .refl hw, hok⟩
  | switch hc _ ih =>
    rw [takeLetters_option hc (by simp)] at htake
    obtain ⟨r1, hswitch, htake⟩ := exists_of_bind_eq_ok htake
    have htook := took_switch hswitch
    obtain ⟨r'', htook', hok⟩ := ih htook.notWaiting (htook.trailing.trans hr) htake hok
    exact ⟨r'', htook.trans htook', hok⟩
  | next hc hplain hv =>
    rw [takeLetters_field hc] at htake
    exact took_next hr hplain hv htake hok
  | attached hc hne hhead hv =>
    rw [takeLetters_field hc, takeRest] at htake
    · exact ⟨r', took_attached hv htake, hok⟩
    · exact hne
    · rintro v rfl
      exact hhead rfl
  | equals hc hv =>
    rw [takeLetters_field hc] at htake
    exact ⟨r', took_attached hv htake, hok⟩

theorem took_written {w : List Bytes} {items : List Occurrence} (h : Written w items)
    (hw : r.NotWaiting) (hr : r.trailing = false) (hok : r.takeAll (w ++ args) = .ok c) :
    ∃ r', Took r (items.filterMap Occurrence.given?) r' ∧ r'.takeAll args = .ok c := by
  cases h with
  | letters hne h =>
    obtain ⟨b, bs, rfl⟩ := List.exists_cons_of_ne_nil hne
    obtain ⟨r', htake, hok⟩ := exists_of_bind_eq_ok hok
    rw [take_letters hr h.head_ne] at htake
    exact took_letters h hw hr htake hok
  | next hplain hv =>
    obtain ⟨r', htake, hok⟩ := exists_of_bind_eq_ok hok
    rw [take_dashed hr] at htake
    exact took_next hr hplain hv htake hok
  | equals hv =>
    obtain ⟨r', htake, hok⟩ := exists_of_bind_eq_ok hok
    rw [take_dashed_equals hr] at htake
    exact ⟨r', took_attached hv htake, hok⟩
  | ascii =>
    obtain ⟨r', htake, hok⟩ := exists_of_bind_eq_ok hok
    rw [take_dashed hr] at htake
    exact ⟨r', took_ascii htake, hok⟩
  | asciiEquals on =>
    obtain ⟨r', htake, hok⟩ := exists_of_bind_eq_ok hok
    rw [take_dashed_equals hr] at htake
    exact ⟨r', took_asciiEquals htake, hok⟩
  | switch s =>
    obtain ⟨r', htake, hok⟩ := exists_of_bind_eq_ok hok
    rw [take_dashed hr] at htake
    exact ⟨r', took_switch htake, hok⟩
  | file hplain hne =>
    obtain ⟨r', htake, hok⟩ := exists_of_bind_eq_ok hok
    rw [take_plain hr hplain] at htake
    exact ⟨r', took_file hw htake, hok⟩

/-- After two hyphens no argument has a value. -/
theorem ends_of_trailing (hw : r.NotWaiting) (hr : r.trailing = true)
    (hok : r.takeAll args = .ok c) : r.Ends [] c := by
  induction args generalizing r with
  | nil => exact ends_of_settle hok
  | cons arg args ih =>
    obtain ⟨r', htake, hok⟩ := exists_of_bind_eq_ok hok
    rw [take_trailing hr] at htake
    have htook := took_file hw htake
    exact htook.ends (ih htook.notWaiting (htook.trailing.trans hr) hok)

/-- Two hyphens change nothing in what is held back. -/
theorem settle_of_trailing (hw : r.NotWaiting) (h : settle { r with trailing := true } = .ok s) :
    ∃ s', r.settle = .ok s' ∧ s.line = s'.line := by
  rcases r with ⟨line, pending, trailing⟩
  cases pending with
  | nothing =>
    cases h
    exact ⟨_, rfl, rfl⟩
  | value o v =>
    cases v with
    | none => exact absurd rfl (hw o)
    | some v =>
      obtain ⟨line', hline, rfl⟩ := exists_of_map_eq_ok h
      exact ⟨_, congrArg (Except.map _) hline, rfl⟩
  | files fs =>
    simp only [settle] at h ⊢
    split at h
    · cases h
    · rename_i hany
      cases h
      exact ⟨_, if_neg hany, rfl⟩

theorem ends_of_reads {items : List Occurrence} (h : Reads args items) (hw : r.NotWaiting)
    (hr : r.trailing = false) (hok : r.takeAll args = .ok c) :
    r.Ends (items.filterMap Occurrence.given?) c := by
  induction h generalizing r with
  | nil => exact ends_of_settle hok
  | written h _ ih =>
    obtain ⟨r', htook, hok⟩ := took_written h hw hr hok
    rw [List.filterMap_append]
    exact htook.ends (ih htook.notWaiting (htook.trailing.trans hr) hok)
  | files _ =>
    obtain ⟨r', htake, hok⟩ := exists_of_bind_eq_ok hok
    cases (take_dashes hr).symm.trans htake
    obtain ⟨s', hs', hvalues'⟩ := ends_of_trailing (r := { r with trailing := true }) hw rfl hok
    obtain ⟨s, hs, hline⟩ := settle_of_trailing hw hs'
    refine ⟨s, hs, ?_⟩
    rw [hvalues', hline, List.filterMap_map]
    simp [Function.comp_def, Occurrence.given?]

/-! ## What is accepted is read -/

theorem settles_of_bind {f : Reading → Except UsageError Reading}
    (h : r.settle.bind f = .ok r') : r.Settles := by
  obtain ⟨s, hs, -⟩ := exists_of_bind_eq_ok h
  exact ⟨s, hs⟩

theorem settles_of_takeOption {o : CliOption} (h : r.takeOption o = .ok r') : r.Settles := by
  cases o <;> exact settles_of_bind h

theorem settles_of_takeAttached {o : CliOption} {v : Bytes}
    (h : r.takeAttached v o = .ok r') : r.Settles := by
  cases o with
  | field o => exact settles_of_bind h
  | ascii => exact settles_of_bind h
  | _ => cases h

theorem settles_of_takeNamed {o : CliOption} {value : Option Bytes}
    (h : r.takeNamed o value = .ok r') : r.Settles := by
  cases value with
  | none => exact settles_of_takeOption h
  | some v => exact settles_of_takeAttached h

theorem settles_of_takeLetters {b : UInt8} {bs : Bytes}
    (h : r.takeLetters (b :: bs) = .ok r') : r.Settles := by
  obtain ⟨o, c, hc, rfl⟩ := exists_of_takeLetters h
  cases o with
  | field p =>
    rw [takeLetters_field hc] at h
    unfold takeRest at h
    split at h
    · exact settles_of_takeOption h
    · exact settles_of_takeAttached h
    · exact settles_of_takeAttached h
  | _ =>
    rw [takeLetters_option hc (by simp)] at h
    obtain ⟨_, h, -⟩ := exists_of_bind_eq_ok h
    exact settles_of_takeOption h

/-- If all arguments are accepted, so is what was held back before them. -/
theorem settles_of_takeAll (hw : r.NotWaiting) (hok : r.takeAll args = .ok c) : r.Settles := by
  induction args generalizing r with
  | nil =>
    obtain ⟨s, hs, -⟩ := exists_of_map_eq_ok hok
    exact ⟨s, hs⟩
  | cons arg args ih =>
    obtain ⟨r', htake, hok⟩ := exists_of_bind_eq_ok hok
    have hfile : r.takePlain arg = .ok r' → r.Settles := fun htake =>
      (took_file hw htake).settles (ih (took_file hw htake).notWaiting hok)
    by_cases hr : r.trailing = true
    · rw [take_trailing hr] at htake
      exact hfile htake
    · rw [Bool.not_eq_true] at hr
      rcases kind_of_argument arg with rfl | ⟨b, bs, rfl⟩ | ⟨b, bs, hb, rfl⟩ | hplain
      · cases (take_dashes hr).symm.trans htake
        obtain ⟨s', hs'⟩ := ih (r := { r with trailing := true }) hw hok
        obtain ⟨s, hs, -⟩ := settle_of_trailing hw hs'
        exact ⟨s, hs⟩
      · rw [take_long hr] at htake
        obtain ⟨o, value, -, htake⟩ := exists_of_takeLong htake
        exact settles_of_takeNamed htake
      · rw [take_letters hr hb] at htake
        exact settles_of_takeLetters htake
      · rw [take_plain hr hplain] at htake
        exact hfile htake

/-- After two hyphens every argument is a file, and so is what was held back as one. -/
theorem nonempty_of_trailing (hw : r.NotWaiting) (hr : r.trailing = true)
    (hok : r.takeAll args = .ok c) : ∀ p ∈ held r.pending ++ args, p ≠ [] := by
  induction args generalizing r with
  | nil =>
    obtain ⟨s, hs, -⟩ := exists_of_map_eq_ok hok
    rw [List.append_nil]
    cases hp : r.pending with
    | files fs => exact (settle_files hp hs).1
    | nothing => nofun
    | value o v => nofun
  | cons arg args ih =>
    obtain ⟨r', htake, hok⟩ := exists_of_bind_eq_ok hok
    rw [take_trailing hr] at htake
    rcases takePlain_cases hw htake with ⟨fs, hfs, rfl⟩ | ⟨hheld, s, hs, rfl⟩
    · have hall := ih (r := { r with pending := .files (fs ++ [arg]) }) nofun hr hok
      rw [hfs]
      simpa [held] using hall
    · have hall := ih (r := { s with pending := .files [arg] }) nofun
        ((pending_of_settle hs).2.trans hr) hok
      rw [hheld]
      simpa [held] using hall

/-- After two hyphens an option waits in vain. -/
theorem takeAll_ne_ok_of_trailing (hp : r.pending = .value o none) (hr : r.trailing = true) :
    r.takeAll args ≠ .ok c := by
  have hsettle : r.settle = .error .invalidValue := by rw [settle, hp]
  intro hok
  cases args with
  | nil =>
    obtain ⟨s, hs, -⟩ := exists_of_map_eq_ok hok
    cases hsettle.symm.trans hs
  | cons arg args =>
    obtain ⟨r', htake, -⟩ := exists_of_bind_eq_ok hok
    rw [take_trailing hr, takePlain, hp] at htake
    have hs : r.settle = .ok r' := (if_pos hr).symm.trans htake
    cases hsettle.symm.trans hs

/-- An option that waits is given its value by the next argument. -/
theorem exists_next (hr : r.trailing = false) (h : r.takeOption (.field o) = .ok r')
    (hok : r'.takeAll args = .ok c) :
    ∃ v args' value, args = v :: args' ∧ IsPlain v ∧ Utf8.decode? v = some value := by
  obtain ⟨s, hs, h⟩ := exists_of_bind_eq_ok h
  cases h
  have hr' : s.trailing = false := (pending_of_settle hs).2.trans hr
  have hwaits : ¬ Settles { s with pending := .value o none } := nofun
  cases args with
  | nil =>
    obtain ⟨s', hs', -⟩ := exists_of_map_eq_ok hok
    cases hwaits ⟨s', hs'⟩
  | cons v args' =>
    obtain ⟨r'', htake, hok⟩ := exists_of_bind_eq_ok hok
    rcases kind_of_argument v with rfl | ⟨b, bs, rfl⟩ | ⟨b, bs, hb, rfl⟩ | hplain
    · have hdashes := take_dashes (r := { s with pending := .value o none }) hr'
      cases hdashes.symm.trans htake
      cases takeAll_ne_ok_of_trailing rfl rfl hok
    · rw [take_long (r := { s with pending := .value o none }) hr'] at htake
      obtain ⟨p, value, -, htake⟩ := exists_of_takeLong htake
      cases hwaits (settles_of_takeNamed htake)
    · rw [take_letters (r := { s with pending := .value o none }) hr' hb] at htake
      cases hwaits (settles_of_takeLetters htake)
    · have hnext := take_value (r := { s with pending := .value o none }) hr' rfl hplain
      cases hnext.symm.trans htake
      obtain ⟨s', hs'⟩ :=
        settles_of_takeAll (r := { s with pending := .value o (some v) }) nofun hok
      obtain ⟨line, hline, -⟩ := exists_of_map_eq_ok hs'
      obtain ⟨value, hv⟩ := exists_of_addValue hline
      exact ⟨v, args', value, rfl, hplain, hv⟩

theorem exists_value {v : Bytes} (h : r.takeAttached v (.field o) = .ok r') :
    ∃ value, Utf8.decode? v = some value := by
  obtain ⟨s, line, -, hline, -⟩ := exists_of_update (f := fun c => c.addValue o v) h
  exact exists_of_addValue hline

theorem exists_letters {bs : Bytes} (hr : r.trailing = false)
    (htake : r.takeLetters bs = .ok r') (hok : r'.takeAll args = .ok c) :
    ∃ next args' items, args = next ++ args' ∧ Letters bs next items := by
  induction bs generalizing r with
  | nil => exact ⟨[], args, [], rfl, .nil⟩
  | cons b bs ih =>
    obtain ⟨o, c, hc, rfl⟩ := exists_of_takeLetters htake
    cases o with
    | field o =>
      rw [takeLetters_field hc] at htake
      unfold takeRest at htake
      split at htake
      · obtain ⟨v, args', value, rfl, hplain, hv⟩ := exists_next hr htake hok
        exact ⟨[v], args', _, rfl, .next hc hplain hv⟩
      · obtain ⟨value, hv⟩ := exists_value htake
        exact ⟨[], args, _, rfl, .equals hc hv⟩
      · rename_i hnil hequals
        obtain ⟨value, hv⟩ := exists_value htake
        refine ⟨[], args, _, rfl, .attached hc hnil (fun hhead => ?_) hv⟩
        obtain ⟨v, rfl⟩ := List.head?_eq_some_iff.mp hhead
        exact hequals v rfl
    | switch s =>
      rw [takeLetters_option hc (by simp)] at htake
      obtain ⟨r1, hswitch, htake⟩ := exists_of_bind_eq_ok htake
      have htook := took_switch hswitch
      obtain ⟨next, args', items, hargs, hletters⟩ := ih (htook.trailing.trans hr) htake
      exact ⟨next, args', _, hargs, .switch hc hletters⟩
    | ascii => cases hc
    | help =>
      rw [takeLetters_option hc (by simp)] at htake
      obtain ⟨r1, hhelp, -⟩ := exists_of_bind_eq_ok htake
      obtain ⟨s, -, hhelp⟩ := exists_of_bind_eq_ok hhelp
      cases hhelp
    | version =>
      rw [takeLetters_option hc (by simp)] at htake
      obtain ⟨r1, hversion, -⟩ := exists_of_bind_eq_ok htake
      obtain ⟨s, -, hversion⟩ := exists_of_bind_eq_ok hversion
      cases hversion

theorem exists_of_addAscii {v : Bytes} {line : CommandLine} (h : c.addAscii (some v) = .ok line) :
    ∃ on : Bool, v = Utf8.ofString (toString on) := by
  rw [CommandLine.addAscii] at h
  split at h
  · rename_i hv
    exact ⟨true, eq_of_beq hv⟩
  · split at h
    · rename_i hv
      exact ⟨false, Option.some.inj (eq_of_beq hv)⟩
    · cases h

/-- The name of an option begins a spelling. -/
theorem exists_named {o : CliOption} {value : Option Bytes} (hr : r.trailing = false)
    (htake : r.takeNamed o value = .ok r') (hok : r'.takeAll args = .ok c) :
    ∃ w args' items, args = w ++ args' ∧ Written ((o.dashed ++ suffix value) :: w) items := by
  cases value with
  | none =>
    rw [suffix, List.append_nil]
    cases o with
    | field o =>
      obtain ⟨v, args', value, rfl, hplain, hv⟩ := exists_next hr htake hok
      exact ⟨[v], args', _, rfl, .next hplain hv⟩
    | ascii => exact ⟨[], args, _, rfl, .ascii⟩
    | switch s => exact ⟨[], args, _, rfl, .switch s⟩
    | help =>
      obtain ⟨s, -, hhelp⟩ := exists_of_bind_eq_ok htake
      cases hhelp
    | version =>
      obtain ⟨s, -, hversion⟩ := exists_of_bind_eq_ok htake
      cases hversion
  | some v =>
    cases o with
    | field o =>
      obtain ⟨value, hv⟩ := exists_value htake
      exact ⟨[], args, _, rfl, .equals hv⟩
    | ascii =>
      obtain ⟨s, line, -, hline, -⟩ := exists_of_update (f := fun c => c.addAscii (some v)) htake
      obtain ⟨on, rfl⟩ := exists_of_addAscii hline
      exact ⟨[], args, _, rfl, .asciiEquals on⟩
    | switch _ => cases htake
    | help => cases htake
    | version => cases htake

theorem exists_written (hw : r.NotWaiting) (hr : r.trailing = false) (hdashes : arg ≠ [45, 45])
    (hok : r.takeAll (arg :: args) = .ok c) :
    ∃ w args' items, args = w ++ args' ∧ Written (arg :: w) items := by
  obtain ⟨r', htake, hrest⟩ := exists_of_bind_eq_ok hok
  rcases kind_of_argument arg with h | ⟨b, bs, rfl⟩ | ⟨b, bs, hb, rfl⟩ | hplain
  · exact absurd h hdashes
  · rw [take_long hr] at htake
    obtain ⟨o, value, hbytes, htake⟩ := exists_of_takeLong htake
    rw [hbytes]
    exact exists_named hr htake hrest
  · rw [take_letters hr hb] at htake
    obtain ⟨next, args', items, hargs, hletters⟩ := exists_letters hr htake hrest
    exact ⟨next, args', items, hargs, .letters nofun hletters⟩
  · rw [take_plain hr hplain] at htake
    have hne : arg ≠ [] := by
      obtain ⟨s', hs'⟩ := settles_of_takeAll (took_file hw htake).notWaiting hrest
      rcases takePlain_cases hw htake with ⟨fs, -, rfl⟩ | ⟨-, s, -, rfl⟩
      · exact (settle_files rfl hs').1 arg (List.mem_append_right _ List.mem_cons_self)
      · exact (settle_files rfl hs').1 arg List.mem_cons_self
    exact ⟨[], args, _, rfl, .file hplain hne⟩

theorem exists_reads (hw : r.NotWaiting) (hr : r.trailing = false) (hok : r.takeAll args = .ok c) :
    ∃ items, Reads args items := by
  induction hn : args.length using Nat.strongRecOn generalizing args r with
  | ind n ih =>
    cases args with
    | nil => exact ⟨[], .nil⟩
    | cons arg args =>
      by_cases hdashes : arg = [45, 45]
      · subst hdashes
        obtain ⟨r', htake, hok⟩ := exists_of_bind_eq_ok hok
        cases (take_dashes hr).symm.trans htake
        have hall := nonempty_of_trailing (r := { r with trailing := true }) hw rfl hok
        exact ⟨_, .files fun p hp => hall p (List.mem_append_right _ hp)⟩
      · obtain ⟨w, args', items, rfl, hwritten⟩ := exists_written hw hr hdashes hok
        obtain ⟨r', htook, hok⟩ := took_written hwritten hw hr hok
        have hlt : args'.length < n := by
          rw [← hn, List.length_cons, List.length_append]
          omega
        obtain ⟨later, hlater⟩ := ih _ hlt htook.notWaiting (htook.trailing.trans hr) hok rfl
        exact ⟨_, .written hwritten hlater⟩

end Reading

theorem filterMap_given (f : Field) (items : List Occurrence) :
    (items.filterMap Occurrence.given?).filterMap (Given.fragment? f) =
      items.filterMap (Occurrence.fragment? f) :=
  List.filterMap_filterMap

/-- Of an accepted command line, each field has the fragments of its values and of the `--ascii`
among them, in the order of the command line. The places of the values only have to grow along it:
whatever lists them so is registered the same. -/
theorem CommandLine.fragments_in_order {args : List Bytes} {c : CommandLine}
    (h : CommandLine.parse args = .ok c) :
    (∃ items, Reads args items) ∧
      ∀ items, Reads args items → ∀ f,
        c.registry.fragments f = items.filterMap (Occurrence.fragment? f) ∧
        ∀ (m : Matches) (placed : List (Nat × Given)), m.Lists placed →
          placed.map Prod.snd = items.filterMap Occurrence.given? →
          m.registry.fragments f = items.filterMap (Occurrence.fragment? f) := by
  refine ⟨Reading.exists_reads (r := {}) nofun rfl h, fun items hitems f =>
    ⟨?_, fun m placed hm hplaced => ?_⟩⟩
  · obtain ⟨s, hs, hvalues⟩ := Reading.ends_of_reads (r := {}) hitems nofun rfl h
    cases hs
    rw [CommandLine.registry, hvalues, Matches.fragments_foldl_addGiven, filterMap_given]
  · rw [hm.fragments, ← filterMap_given, ← hplaced, List.filterMap_map]
    rfl

/-- Values of two fields, attached and not, between `--ascii` and switches. -/
def mixedLine : List Bytes :=
  ["-tone", "--ascii", "-qT", "s/n/d/", "--set-artist=two", "--ascii=false", "-T=s/o/a/", "--",
    "-t"].map Utf8.ofString

def mixedItems : List Occurrence :=
  [.given (.text (.literal .title) "one".toList), .given (.ascii true), .switch .quiet,
    .given (.text (.expression .title) "s/n/d/".toList),
    .given (.text (.literal .artist) "two".toList), .given (.ascii false),
    .given (.text (.expression .title) "s/o/a/".toList), .file (Utf8.ofString "-t")]

/-- The values of these items, at the odd places. -/
def mixedPlaced : List (Nat × Given) :=
  [1, 3, 5, 7, 9, 11].zip (mixedItems.filterMap Occurrence.given?)

theorem CommandLine.fragments_in_order_mixed :
    let titles : List Fragment := [.literal "one".toList, .expression asciiOnly,
      .expression "s/n/d/".toList, .expression "s/o/a/".toList]
    ∃ c, CommandLine.parse mixedLine = .ok c ∧ c.registry.fragments .title = titles ∧
      c.registry.fragments .artist = [.expression asciiOnly, .literal "two".toList] ∧
      (Matches.ofPlaced mixedPlaced).registry.fragments .title = titles := by
  intro titles
  obtain ⟨c, hc⟩ := Script.exists_of_isOk (r := CommandLine.parse mixedLine) (by decide +kernel)
  have htitle : Written [Utf8.ofString "-tone"] [mixedItems[0]] :=
    .letters nofun (.attached (o := .literal .title) (c := 't') rfl nofun (by decide)
      (by decide +kernel))
  have hquiet : Written [Utf8.ofString "-qT", Utf8.ofString "s/n/d/"]
      [mixedItems[2], mixedItems[3]] :=
    .letters nofun (.switch (c := 'q') rfl (.next (o := .expression .title) (c := 'T') rfl
      (by decide) (by decide +kernel)))
  have hartist : Written [Utf8.ofString "--set-artist=two"] [mixedItems[4]] :=
    .equals (o := .literal .artist) (v := Utf8.ofString "two") (by decide +kernel)
  have hequals : Written [Utf8.ofString "-T=s/o/a/"] [mixedItems[6]] :=
    .letters nofun (.equals (o := .expression .title) (c := 'T') rfl (by decide +kernel))
  have hreads : Reads mixedLine mixedItems :=
    .written htitle (.written .ascii (.written hquiet (.written hartist
      (.written (.asciiEquals false) (.written hequals
        (.files (by decide)))))))
  obtain ⟨-, horder⟩ := CommandLine.fragments_in_order hc
  have htitles : mixedItems.filterMap (Occurrence.fragment? .title) = titles := by decide +kernel
  have hartists : mixedItems.filterMap (Occurrence.fragment? .artist) =
    [.expression asciiOnly, .literal "two".toList] := by decide +kernel
  refine ⟨c, hc, (horder mixedItems hreads .title).1.trans htitles,
    (horder mixedItems hreads .artist).1.trans hartists, ?_⟩
  have hlists := Matches.lists_ofPlaced (show mixedPlaced.Pairwise fun v w => v.1 < w.1 by decide)
  exact ((horder mixedItems hreads .title).2 _ mixedPlaced hlists (by decide)).trans htitles

end TagEdit
