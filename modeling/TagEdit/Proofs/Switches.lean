import Mathlib.Data.List.Chain
import Mathlib.Data.List.Induction
import TagEdit.Proofs.CommandOrder

/-!
# Switches and their opposites

A switch takes back its opposite, and what is taken back may be given again; a switch in force may
not. So a row of switches is accepted if between any two occurrences of a switch stands its
opposite, and then of a switch and its opposite the last one given is in force.
-/

namespace TagEdit

/-! ## Opposites -/

namespace Switch

variable {s t : Switch}

theorem opposite?_comm : s.opposite? = some t ↔ t.opposite? = some s := by
  cases s <;> cases t <;> decide

/-- Whether a switch is another one or its opposite. -/
def Concerns (t s : Switch) : Prop := t = s ∨ s.opposite? = some t

instance (t s : Switch) : Decidable (Concerns t s) := inferInstanceAs (Decidable (_ ∨ _))

/-- The occurrences of a switch and of its opposite. -/
def occurrences (s : Switch) (switches : List Switch) : List Switch :=
  switches.filter (Concerns · s)

theorem occurrences_concat_pos (h : Concerns t s) (switches : List Switch) :
    s.occurrences (switches ++ [t]) = s.occurrences switches ++ [t] := by
  simp [occurrences, h]

theorem occurrences_concat_neg (h : ¬ Concerns t s) (switches : List Switch) :
    s.occurrences (switches ++ [t]) = s.occurrences switches := by
  simp [occurrences, h]

/-- A switch and its opposite have the same occurrences. -/
theorem occurrences_eq_of_concerns (h : Concerns t s) (switches : List Switch) :
    s.occurrences switches = t.occurrences switches := by
  refine List.filter_congr fun u _ => decide_eq_decide.mpr ?_
  revert h
  cases s <;> cases t <;> cases u <;> decide

end Switch

open Switch

/-- Between any two occurrences of a switch stands its opposite. -/
def Alternate (switches : List Switch) : Prop :=
  ∀ s : Switch, (s.occurrences switches).IsChain (· ≠ ·)

/-- One more switch keeps a row alternating unless its last occurrence has not been taken back. -/
theorem alternate_concat {switches : List Switch} {s : Switch} :
    Alternate (switches ++ [s]) ↔
      Alternate switches ∧ (s.occurrences switches).getLast? ≠ some s := by
  have hchain : ∀ t, Concerns s t → ((t.occurrences (switches ++ [s])).IsChain (· ≠ ·) ↔
      (t.occurrences switches).IsChain (· ≠ ·) ∧
        (s.occurrences switches).getLast? ≠ some s) := by
    intro t ht
    rw [occurrences_concat_pos ht, List.isChain_append, occurrences_eq_of_concerns ht]
    refine and_congr_right fun _ => ⟨fun h hlast => ?_, fun h => ⟨.singleton s, ?_⟩⟩
    · exact h.2 s hlast s rfl rfl
    · rintro last hlast _ ⟨⟩ rfl
      exact h hlast
  constructor
  · intro h
    refine ⟨fun t => ?_, ((hchain s (.inl rfl)).mp (h s)).2⟩
    by_cases ht : Concerns s t
    · exact ((hchain t ht).mp (h t)).1
    · exact occurrences_concat_neg ht switches ▸ h t
  · rintro ⟨h, hs⟩ t
    by_cases ht : Concerns s t
    · exact (hchain t ht).mpr ⟨h t, hs⟩
    · exact (occurrences_concat_neg ht switches).symm ▸ h t

/-! ## Switches in force -/

namespace CommandLine

variable {c c' : CommandLine} {s : Switch} {switches : List Switch}

/-- In force are the switches that come last among their occurrences. -/
def Heeds (c : CommandLine) (switches : List Switch) : Prop :=
  ∀ s, c.has s = true ↔ (s.occurrences switches).getLast? = some s

theorem turnOn_of_has (h : c.has s = true) : c.turnOn s = .error .argumentConflict := if_pos h

/-- What is in force after one more switch. -/
theorem Heeds.turnOn (hc : c.Heeds switches) (h : ¬ c.has s = true) :
    ∃ c', c.turnOn s = .ok c' ∧ c'.Heeds (switches ++ [s]) := by
  refine ⟨_, if_neg h, fun t => ?_⟩
  have hhas : has { c with switches := s :: c.switches.filter fun t => s.opposite? != some t } t =
      true ↔ t = s ∨ c.has t = true ∧ s.opposite? ≠ some t := by
    simp [has]
  rw [hhas]
  by_cases ht : Concerns s t
  · rw [occurrences_concat_pos ht, List.getLast?_concat, Option.some_inj]
    constructor
    · rintro (rfl | ⟨-, hne⟩)
      · rfl
      · rcases ht with rfl | hopp
        · rfl
        · exact absurd (opposite?_comm.mp hopp) hne
    · rintro rfl
      exact .inl rfl
  · obtain ⟨hne, hopp⟩ := not_or.mp ht
    rw [occurrences_concat_neg ht, ← hc t]
    constructor
    · rintro (rfl | ⟨hhas, -⟩)
      · exact absurd rfl hne
      · exact hhas
    · exact fun hhas => .inr ⟨hhas, fun h => hopp (opposite?_comm.mp h)⟩

/-- A row of switches is carried out if it alternates, and only then. -/
theorem foldlM_turnOn (switches : List Switch) :
    (Alternate switches ∧ ∃ c, switches.foldlM turnOn {} = .ok c ∧ c.Heeds switches) ∨
      (¬ Alternate switches ∧ switches.foldlM turnOn {} = .error .argumentConflict) := by
  induction switches using List.reverseRecOn with
  | nil => exact .inl ⟨fun _ => .nil, {}, rfl, fun _ => ⟨nofun, nofun⟩⟩
  | append_singleton switches s ih =>
    rw [List.foldlM_append, alternate_concat]
    rcases ih with ⟨halt, c, hc, hheeds⟩ | ⟨halt, herror⟩
    · have hturn : (switches.foldlM turnOn {} >>= [s].foldlM turnOn) = c.turnOn s := by
        rw [hc]
        exact bind_pure (c.turnOn s)
      rw [hturn, Ne, ← hheeds s]
      by_cases hs : c.has s = true
      · exact .inr ⟨fun h => h.2 hs, turnOn_of_has hs⟩
      · exact .inl ⟨⟨halt, hs⟩, hheeds.turnOn hs⟩
    · rw [herror]
      exact .inr ⟨fun h => halt h.1, rfl⟩

end CommandLine

/-! ## Arguments that name switches -/

/-- The arguments that name some switches. -/
def Switch.arguments (switches : List Switch) : List Bytes :=
  switches.map fun s => (CliOption.switch s).dashed

/-- The reader carries out the switches one by one. -/
theorem Reading.takeAll_arguments (c : CommandLine) (switches : List Switch) :
    Reading.takeAll { line := c } (Switch.arguments switches) =
      switches.foldlM CommandLine.turnOn c := by
  induction switches generalizing c with
  | nil => rfl
  | cons s switches ih =>
    have htake : Reading.take { line := c } (CliOption.switch s).dashed =
        (c.turnOn s).map fun line => { line } := by
      rw [take_dashed rfl]
      show (c.turnOn s >>= fun line => pure ({ line } : Reading)) = _
      cases c.turnOn s <;> rfl
    show (Reading.take { line := c } (CliOption.switch s).dashed >>= fun r =>
      r.takeAll (Switch.arguments switches)) = _
    rw [htake, List.foldlM_cons]
    cases c.turnOn s with
    | error e => rfl
    | ok c' => exact ih c'

/-- A row of switches is accepted, and of each pair the last one given wins, exactly if between any
two occurrences of a switch stands its opposite; else the row is refused as a conflict. -/
theorem CommandLine.last_switch_wins_iff (switches : List Switch) :
    ((∃ c, CommandLine.parse (Switch.arguments switches) = .ok c ∧
        (c.check = true ↔ (Switch.check.occurrences switches).getLast? = some .check) ∧
        (c.debug = true ↔ (Switch.debug.occurrences switches).getLast? = some .debug)) ↔
      Alternate switches) ∧
    (¬ Alternate switches →
      CommandLine.parse (Switch.arguments switches) = .error .argumentConflict) := by
  rw [CommandLine.parse, Reading.takeAll_arguments]
  rcases foldlM_turnOn switches with ⟨halt, c, hc, hheeds⟩ | ⟨halt, herror⟩
  · refine ⟨⟨fun _ => halt, fun _ => ?_⟩, fun h => absurd halt h⟩
    exact ⟨c, hc, hheeds .check, hheeds .debug⟩
  · refine ⟨⟨?_, fun h => absurd h halt⟩, fun _ => herror⟩
    rintro ⟨c, hc, -⟩
    cases herror.symm.trans hc

/-- A switch that is taken back and given again, and one that is given again at once. -/
theorem CommandLine.last_switch_wins_taken_back :
    (∃ c, CommandLine.parse (["--check", "--debug", "--no-check", "--no-debug", "--check"].map
        Utf8.ofString) = .ok c ∧ c.check = true ∧ c.debug = false) ∧
      ¬ Alternate [.debug, .check, .check] ∧
      CommandLine.parse (["--debug", "--check", "--check"].map Utf8.ofString) =
        .error .argumentConflict := by
  have halternate : Alternate [.check, .debug, .noCheck, .noDebug, .check] := by
    intro s
    cases s <;> decide
  have hrepeated : ¬ Alternate [.debug, .check, .check] := fun h => absurd (h .check) (by decide)
  obtain ⟨c, hc, hcheck, hdebug⟩ := (CommandLine.last_switch_wins_iff _).1.mpr halternate
  refine ⟨⟨c, hc, hcheck.mpr (by decide), ?_⟩, hrepeated,
    (CommandLine.last_switch_wins_iff _).2 hrepeated⟩
  exact Bool.eq_false_iff.mpr (mt hdebug.mp (by decide))

/-- A row that only holds switches with an opposite need not be accepted: `--check --check`. -/
theorem CommandLine.repeated_switch_conflicts :
    ¬ ∀ switches : List Switch, (∀ s ∈ switches, s.opposite? ≠ none) →
      ∃ c, CommandLine.parse (Switch.arguments switches) = .ok c ∧
        (c.check = true ↔ (Switch.check.occurrences switches).getLast? = some .check) ∧
        (c.debug = true ↔ (Switch.debug.occurrences switches).getLast? = some .debug) := by
  intro h
  obtain ⟨c, hc, -⟩ := h [.check, .check] (by decide)
  rw [CommandLine.parse, Reading.takeAll_arguments] at hc
  cases hc

end TagEdit
