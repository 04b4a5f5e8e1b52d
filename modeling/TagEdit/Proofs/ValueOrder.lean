import Mathlib.Data.List.Nodup
import Mathlib.Data.List.Perm.Basic
import TagEdit.CommandLine

/-!
# Values in the order of the command line

Values are gathered option by option, and each option only keeps the order among its own. Their
places restore the order among all: if places grow along the command line, the fragments of a
field are those of the values in command-line order.
-/

namespace TagEdit

/-- A value of an option. -/
inductive Given where
  | text (option : FieldOption) (value : Text)
  /-- Whether plain ASCII is asked for. -/
  | ascii (on : Bool)
  deriving DecidableEq, Repr

namespace Given

/-- The option that has a value. -/
def option : Given → CliOption
  | .text o _ => .field o
  | .ascii _ => .ascii

def textOf? (o : FieldOption) : Given → Option Text
  | .text p value => if p = o then some value else none
  | .ascii _ => none

def ascii? : Given → Option Bool
  | .text _ _ => none
  | .ascii on => some on

/-- What is registered for a value. -/
def record? : Given → Option (Target × Fragment)
  | .text o value => some (o.entry value)
  | .ascii on => if on then some (.every, .expression asciiOnly) else none

/-- The fragment that a value adds to the chain of a field. -/
def fragment? (f : Field) : Given → Option Fragment
  | .text (.expression g) value => if g = f then some (.expression value) else none
  | .text (.literal g) value => if g = f then some (.literal value) else none
  | .ascii on => if on then some (.expression asciiOnly) else none

end Given

theorem Given.option_mem (g : Given) : g.option ∈ CliOption.valued := by
  cases g with
  | text o value =>
    refine List.mem_append_left _ (List.mem_map_of_mem ?_)
    cases o <;> simp [FieldOption.all]
  | ascii on => exact List.mem_append_right _ List.mem_cons_self

/-- Of the members of a list, one alone is chosen. -/
theorem flatMap_ite_eq {α β : Type} [DecidableEq α] {l : List α} (hl : l.Nodup) {a : α}
    (ha : a ∈ l) (x : Option β) :
    (l.flatMap fun o => (if a = o then x else none).toList) = x.toList := by
  obtain ⟨before, later, rfl⟩ := List.append_of_mem ha
  obtain ⟨-, hlater, hne⟩ := List.nodup_append.mp hl
  have hbefore : (before.flatMap fun o => (if a = o then x else none).toList) = [] :=
    List.flatMap_eq_nil_iff.mpr fun o ho => by
      rw [if_neg fun hao : a = o => hne o ho a List.mem_cons_self hao.symm]
      rfl
  have hlater : (later.flatMap fun o => (if a = o then x else none).toList) = [] :=
    List.flatMap_eq_nil_iff.mpr fun o ho => by
      rw [if_neg fun hao : a = o => (List.nodup_cons.mp hlater).1 (hao ▸ ho)]
      rfl
  rw [List.flatMap_append, List.flatMap_cons, hbefore, hlater, if_pos rfl, List.append_nil,
    List.nil_append]

/-- The options list some values at growing places. -/
structure Matches.Lists (m : Matches) (values : List (Nat × Given)) : Prop where
  growing : values.Pairwise fun v w => v.1 < w.1
  places : ∀ o, m.places o = (values.filter fun v => v.2.option = o).map Prod.fst
  texts : ∀ o, m.texts o = values.filterMap fun v => v.2.textOf? o
  ascii : m.ascii = values.filterMap fun v => v.2.ascii?

/-- The options that list some values. -/
def Matches.ofPlaced (values : List (Nat × Given)) : Matches where
  places o := (values.filter fun v => v.2.option = o).map Prod.fst
  texts o := values.filterMap fun v => v.2.textOf? o
  ascii := values.filterMap fun v => v.2.ascii?

theorem Matches.lists_ofPlaced {values : List (Nat × Given)}
    (h : values.Pairwise fun v w => v.1 < w.1) : (Matches.ofPlaced values).Lists values :=
  ⟨h, fun _ => rfl, fun _ => rfl, rfl⟩

/-- What is registered for a value, with its place. -/
def placedRecord? (v : Nat × Given) : Option (Nat × Target × Fragment) := v.2.record?.map (v.1, ·)

namespace Matches

variable {m : Matches} {values : List (Nat × Given)}

/-! ## From the options to the command line -/

/-- The values of one option, each with its own place. -/
theorem Lists.entriesOf (h : m.Lists values) {o : CliOption} (ho : o ∈ CliOption.valued) :
    m.entriesOf o = values.filterMap fun v => if v.2.option = o then placedRecord? v else none := by
  have hcases : (∃ p, o = .field p) ∨ o = .ascii := by
    rcases List.mem_append.mp ho with ho | ho
    · obtain ⟨p, -, rfl⟩ := List.mem_map.mp ho
      exact .inl ⟨p, rfl⟩
    · exact .inr (List.mem_singleton.mp ho)
  rcases hcases with ⟨p, rfl⟩ | rfl
  · rw [Matches.entriesOf, h.places, h.texts]
    clear h
    induction values with
    | nil => rfl
    | cons v values ih =>
      obtain ⟨n, g⟩ := v
      cases g with
      | text q value =>
        by_cases hq : q = p
        · simpa [Given.option, Given.textOf?, placedRecord?, Given.record?, hq] using ih
        · simpa [Given.option, Given.textOf?, hq] using ih
      | ascii on => simpa [Given.option, Given.textOf?] using ih
  · rw [Matches.entriesOf, h.places, h.ascii]
    clear h
    induction values with
    | nil => rfl
    | cons v values ih =>
      obtain ⟨n, g⟩ := v
      cases g with
      | text q value => simpa [Given.option, Given.ascii?] using ih
      | ascii on =>
        cases on <;> simpa [Given.option, Given.ascii?, placedRecord?, Given.record?] using ih

/-- Every value is registered once, though option by option. -/
theorem Lists.entries_perm (h : m.Lists values) :
    m.entries.Perm (values.filterMap placedRecord?) := by
  have hentries : m.entries = CliOption.valued.flatMap fun o =>
      values.filterMap fun v => if v.2.option = o then placedRecord? v else none :=
    List.flatMap_congr fun o ho => h.entriesOf ho
  rw [hentries]
  clear h hentries
  induction values with
  | nil => simp
  | cons v values ih =>
    have hcons : ∀ {β : Type} (get? : Nat × Given → Option β),
        (v :: values).filterMap get? = (get? v).toList ++ values.filterMap get? := by
      intro β get?
      rw [List.filterMap_cons]
      cases get? v <;> rfl
    simp only [hcons]
    refine (List.flatMap_append_perm _ _ _).symm.trans ?_
    rw [flatMap_ite_eq (by decide) (Given.option_mem v.2)]
    exact ih.append_left _

/-- The values of a command line are registered in its order. -/
theorem Lists.sorted_entries (h : m.Lists values) :
    m.entries.mergeSort (fun a b => a.1 ≤ b.1) = values.filterMap placedRecord? := by
  have hgrowing : (values.filterMap placedRecord?).Pairwise fun a b => a.1 < b.1 := by
    refine h.growing.filterMap placedRecord? fun v w hvw a ha b hb => ?_
    obtain ⟨_, -, rfl⟩ := Option.map_eq_some_iff.mp ha
    obtain ⟨_, -, rfl⟩ := Option.map_eq_some_iff.mp hb
    exact hvw
  have hkeys : ((values.filterMap placedRecord?).map Prod.fst).Nodup :=
    List.pairwise_map.mpr (hgrowing.imp fun hlt => Nat.ne_of_lt hlt)
  have hperm := (List.mergeSort_perm m.entries fun a b => decide (a.1 ≤ b.1)).trans h.entries_perm
  have hsorted : (m.entries.mergeSort fun a b => a.1 ≤ b.1).Pairwise fun a b =>
      decide (a.1 ≤ b.1) = true :=
    List.pairwise_mergeSort (fun a b c => by simpa using Nat.le_trans)
      (fun a b => by simpa using Nat.le_total a.1 b.1) m.entries
  refine List.Perm.eq_of_pairwise (fun a b ha hb hab hba => ?_) hsorted
    (hgrowing.imp fun hlt => by simpa using Nat.le_of_lt hlt) hperm
  exact List.inj_on_of_nodup_map hkeys (hperm.subset ha) hb
    (Nat.le_antisymm (by simpa using hab) (by simpa using hba))

theorem fragments_foldl_add (es : List (Target × Fragment)) (r : Registry) (f : Field) :
    (es.foldl Registry.add r).fragments f =
      r.fragments f ++ es.filterMap fun e => if e.1.covers f then some e.2 else none := by
  induction es generalizing r with
  | nil => simp
  | cons e es ih =>
    rw [List.foldl_cons, ih]
    obtain ⟨g | _, frag⟩ := e
    · by_cases hg : g = f
      · simp [Registry.add, Registry.fragments_register, Target.covers, hg]
      · simp [Registry.add, Registry.fragments_register, Target.covers, hg]
    · simp [Registry.add, Registry.fragments_registerAll, Target.covers]

theorem Lists.fragments (h : m.Lists values) (f : Field) :
    m.registry.fragments f = values.filterMap fun v => v.2.fragment? f := by
  rw [registry, h.sorted_entries, fragments_foldl_add, Registry.fragments_empty, List.nil_append,
    List.filterMap_map, List.filterMap_filterMap]
  refine List.filterMap_congr fun v _ => ?_
  obtain ⟨n, g⟩ := v
  cases g with
  | text o value =>
    cases o <;>
      simp [placedRecord?, Given.record?, FieldOption.entry, Given.fragment?, Target.covers]
  | ascii on => cases on <;> simp [placedRecord?, Given.record?, Given.fragment?, Target.covers]

/-! ## From the command line to the options -/

/-- Adds a value behind the others. -/
def addGiven (m : Matches) : Given → Matches
  | .text o value => m.addText o value
  | .ascii on => m.addAscii on

theorem Lists.addGiven (h : m.Lists values) (hcount : ∀ v ∈ values, v.1 < m.count) (g : Given) :
    (m.addGiven g).Lists (values ++ [(m.count, g)]) := by
  refine ⟨?_, fun o => ?_, fun o => ?_, ?_⟩
  · rw [List.pairwise_append]
    exact ⟨h.growing, List.pairwise_singleton _ _, fun v hv w hw => by
      rw [List.mem_singleton.mp hw]
      exact hcount v hv⟩
  · have hplaces : (m.addGiven g).places o =
        if o = g.option then m.places o ++ [m.count] else m.places o := by
      cases g <;> rfl
    rw [hplaces, h.places]
    by_cases ho : o = g.option
    · simp [ho]
    · simp [ho, Ne.symm ho]
  · cases g with
    | text p value =>
      show (if o = p then m.texts o ++ [value] else m.texts o) = _
      rw [h.texts]
      by_cases ho : o = p
      · simp [ho, Given.textOf?]
      · simp [ho, Ne.symm ho, Given.textOf?]
    | ascii on =>
      show m.texts o = _
      rw [h.texts]
      simp [Given.textOf?]
  · cases g with
    | text p value =>
      show m.ascii = _
      rw [h.ascii]
      simp [Given.ascii?]
    | ascii on =>
      show m.ascii ++ [on] = _
      rw [h.ascii]
      simp [Given.ascii?]

/-- Values that are added in order are listed at growing places. -/
theorem lists_foldl (gs : List Given) (h : m.Lists values) (hcount : ∀ v ∈ values, v.1 < m.count) :
    ∃ placed : List (Nat × Given), placed.map Prod.snd = gs ∧
      (gs.foldl Matches.addGiven m).Lists (values ++ placed) := by
  induction gs generalizing m values with
  | nil => exact ⟨[], rfl, by simpa using h⟩
  | cons g gs ih =>
    have hnext : (m.addGiven g).count = m.count + 1 := by cases g <;> rfl
    obtain ⟨placed, hgs, hlists⟩ := ih (h.addGiven hcount g) (by
      intro v hv
      rw [hnext]
      rcases List.mem_append.mp hv with hv | hv
      · exact Nat.lt_succ_of_lt (hcount v hv)
      · rw [List.mem_singleton.mp hv]
        exact Nat.lt_succ_self _)
    refine ⟨(m.count, g) :: placed, by simp [hgs], ?_⟩
    simpa using hlists

/-- What a field's chain becomes when values are added in order. -/
theorem fragments_foldl_addGiven (gs : List Given) (f : Field) :
    (gs.foldl Matches.addGiven {}).registry.fragments f = gs.filterMap (Given.fragment? f) := by
  have hempty : ({} : Matches).Lists [] := ⟨.nil, fun _ => rfl, fun _ => rfl, rfl⟩
  obtain ⟨placed, hgs, hlists⟩ := lists_foldl gs hempty (by simp)
  rw [hlists.fragments f, ← hgs, List.filterMap_map]
  rfl

end Matches

end TagEdit
