import TagEdit.Proofs.Regex.Matching
import TagEdit.Proofs.Reading
import TagEdit.Regex.Basic

/-!
# Numbers of groups

The groups of a pattern are numbered from one on, and every number that a reader gives out is still
there when the pattern has become a node. So a match never notes anything besides its ends in their
slots, and the places of the whole match can be read off.
-/

namespace TagEdit.Regex

open Unicode

/-! ## Nodes -/

namespace Node

mutual

/-- All groups have positive numbers. -/
def Numbered : Node → Prop
  | .seq ns => NumberedAll ns
  | .alt ns => NumberedAll ns
  | .repeat _ _ _ body => body.Numbered
  | .capture i body => 0 < i ∧ body.Numbered
  | _ => True

def NumberedAll : List Node → Prop
  | [] => True
  | n :: ns => n.Numbered ∧ NumberedAll ns

end

variable {n : Node} {ns : List Node}

theorem numberedAll_iff : NumberedAll ns ↔ ∀ n ∈ ns, n.Numbered := by
  induction ns with
  | nil => simp [NumberedAll]
  | cons n ns ih => rw [NumberedAll, ih, List.forall_mem_cons]

theorem numbered_ofSet (s : CharSet) : (ofSet s).Numbered := by
  unfold ofSet
  split
  · split <;> trivial
  · trivial

theorem numbered_parts (h : n.Numbered) : ∀ m ∈ n.parts, m.Numbered := by
  cases n with
  | empty => simp [parts]
  | seq ns => exact numberedAll_iff.mp h
  | _ => simpa [parts] using h

theorem numbered_branches (h : n.Numbered) : ∀ m ∈ n.branches, m.Numbered := by
  cases n with
  | alt ns => exact numberedAll_iff.mp h
  | _ => simpa [branches] using h

theorem numbered_joinTo (h : n.Numbered) (hns : ∀ m ∈ ns, m.Numbered) :
    ∀ m ∈ joinTo n ns, m.Numbered := by
  unfold joinTo
  split
  · exact List.forall_mem_cons.mpr ⟨trivial, (List.forall_mem_cons.mp hns).2⟩
  · exact List.forall_mem_cons.mpr ⟨h, hns⟩

theorem numbered_foldr_joinTo (hns : ∀ m ∈ ns, m.Numbered) :
    ∀ m ∈ ns.foldr joinTo [], m.Numbered := by
  induction ns with
  | nil => simp
  | cons n ns ih =>
    have h := List.forall_mem_cons.mp hns
    exact numbered_joinTo h.1 (ih h.2)

theorem forall_flatMap {f : Node → List Node} (hf : ∀ n : Node, n.Numbered → ∀ m ∈ f n, m.Numbered)
    (hns : ∀ m ∈ ns, m.Numbered) : ∀ m ∈ ns.flatMap f, m.Numbered := fun m hm => by
  obtain ⟨n, hn, hm⟩ := List.mem_flatMap.mp hm
  exact hf n (hns n hn) m hm

theorem numbered_ofSeq (hns : ∀ m ∈ ns, m.Numbered) : (ofSeq ns).Numbered := by
  have h := numbered_foldr_joinTo (forall_flatMap (f := parts) (fun n => numbered_parts) hns)
  unfold ofSeq
  split
  · trivial
  · rename_i hone
    exact h _ (hone ▸ List.mem_cons_self)
  · exact numberedAll_iff.mpr h

theorem seq_mem_of_seqs {ms : List (List Node)} (h : seqs? ns = some ms) :
    ∀ l ∈ ms, .seq l ∈ ns := by
  induction ns generalizing ms with
  | nil =>
    cases h
    simp
  | cons n ns ih =>
    rw [seqs?, List.mapM_cons] at h
    obtain ⟨l, hl, h⟩ := Option.bind_eq_some_iff.mp h
    obtain ⟨ls, hls, h⟩ := Option.bind_eq_some_iff.mp h
    cases h
    split at hl
    · cases hl
      exact List.forall_mem_cons.mpr
        ⟨List.mem_cons_self, fun m hm => List.mem_cons_of_mem _ (ih hls m hm)⟩
    · cases hl

/-- A front that is split off consists of parts of the branches, and so does what is left of
each. -/
theorem numbered_choose (fuel : Nat) (hns : ∀ m ∈ ns, m.Numbered) : (choose fuel ns).Numbered := by
  have h := forall_flatMap (fun n => numbered_branches) hns
  fun_induction choose fuel ns with
  | case1 => trivial
  | case2 _ _ _ hone => exact h _ (hone ▸ List.mem_cons_self)
  | case3 => exact numbered_ofSet _
  | case4 => exact numbered_ofSet _
  | case5 => exact numberedAll_iff.mpr h
  | case6 _ _ ms _ _ _ _ _ _ hseqs ih =>
    have hparts : ∀ l ∈ ms, ∀ m ∈ l, m.Numbered := fun l hl =>
      numberedAll_iff.mp (h _ (seq_mem_of_seqs hseqs l hl))
    have hrest : ∀ n ∈ ms.map fun l => ofSeq (l.drop (sharedLength ms)), n.Numbered :=
      List.forall_mem_map.mpr fun l hl =>
        numbered_ofSeq fun m hm => hparts l hl m (List.mem_of_mem_drop hm)
    refine numbered_ofSeq (List.forall_mem_append.mpr ⟨fun m hm => ?_, ?_⟩)
    · rcases ms with _ | ⟨l, ms⟩
      · simp at hm
      · exact hparts l List.mem_cons_self m (List.mem_of_mem_take hm)
    · exact List.forall_mem_singleton.mpr
        (ih hrest (forall_flatMap (fun n => numbered_branches) hrest))
  | case7 => exact numberedAll_iff.mpr h

theorem numbered_ofAlt (hns : ∀ m ∈ ns, m.Numbered) : (ofAlt ns).Numbered := numbered_choose _ hns

theorem numbered_ofRepeat (least : Nat) (most : Option Nat) (greedy : Bool) (h : n.Numbered) :
    (ofRepeat least most greedy n).Numbered := by
  unfold ofRepeat
  split
  split
  · trivial
  · split
    · exact h
    · exact h

end Node

/-! ## Patterns -/

namespace Pattern

mutual

def Numbered : Pattern → Prop
  | .repetition _ _ _ body => body.Numbered
  | .group (.capture i) body => 0 < i ∧ body.Numbered
  | .group (.plain _) body => body.Numbered
  | .concat parts => NumberedAll parts
  | .alternation branches => NumberedAll branches
  | _ => True

def NumberedAll : List Pattern → Prop
  | [] => True
  | p :: ps => p.Numbered ∧ NumberedAll ps

end

variable {p : Pattern} {ps : List Pattern}

theorem numberedAll_iff : NumberedAll ps ↔ ∀ p ∈ ps, p.Numbered := by
  induction ps with
  | nil => simp [NumberedAll]
  | cons p ps ih => rw [NumberedAll, ih, List.forall_mem_cons]

theorem numbered_ofParts (h : ∀ p ∈ ps, p.Numbered) : (ofParts ps).Numbered := by
  unfold ofParts
  split
  · trivial
  · exact h _ List.mem_cons_self
  · exact numberedAll_iff.mpr h

theorem numbered_ofBranches (h : ∀ p ∈ ps, p.Numbered) : (ofBranches ps).Numbered := by
  unfold ofBranches
  split
  · exact h _ List.mem_cons_self
  · exact numberedAll_iff.mpr h

end Pattern

mutual

/-- Only groups of the pattern become captures. -/
theorem numbered_interpret {s s' : Switches} {n : Node} : (p : Pattern) → p.Numbered →
    Node.interpret s p = .ok (n, s') → n.Numbered
  | .empty, _, h => by
    cases h
    trivial
  | .flags _, _, h => by
    cases h
    trivial
  | .literal l, _, h => by
    rw [Node.interpret] at h
    obtain ⟨m, hm, h⟩ := Script.exists_of_bind_eq_ok h
    obtain ⟨c, -, hc⟩ := Script.exists_of_bind_eq_ok hm
    cases h
    cases hc
    exact Node.numbered_ofSet _
  | .dot, _, h => by
    rw [Node.interpret] at h
    obtain ⟨m, hm, h⟩ := Script.exists_of_bind_eq_ok h
    cases h
    unfold dotNode at hm
    split at hm
    · cases hm
    · split at hm
      · cases hm
        trivial
      · split at hm <;> cases hm <;> trivial
  | .anchor _, _, h => by
    cases h
    trivial
  | .named cls, _, h => by
    rw [Node.interpret] at h
    obtain ⟨_, -, h⟩ := Script.exists_of_bind_eq_ok h
    cases h
    exact Node.numbered_ofSet _
  | .bracketed negated item, _, h => by
    rw [Node.interpret] at h
    obtain ⟨_, -, h⟩ := Script.exists_of_bind_eq_ok h
    obtain ⟨_, -, h⟩ := Script.exists_of_bind_eq_ok h
    cases h
    exact Node.numbered_ofSet _
  | .repetition least most greedy body, hp, h => by
    rw [Node.interpret] at h
    obtain ⟨⟨m, t⟩, hm, h⟩ := Script.exists_of_bind_eq_ok h
    cases h
    exact Node.numbered_ofRepeat _ _ _ (numbered_interpret body hp hm)
  | .group (.capture i) body, hp, h => by
    rw [Node.interpret] at h
    obtain ⟨⟨m, t⟩, hm, h⟩ := Script.exists_of_bind_eq_ok h
    cases h
    exact ⟨hp.1, numbered_interpret body hp.2 hm⟩
  | .group (.plain fs) body, hp, h => by
    rw [Node.interpret] at h
    obtain ⟨⟨m, t⟩, hm, h⟩ := Script.exists_of_bind_eq_ok h
    cases h
    exact numbered_interpret body hp hm
  | .concat parts, hp, h => by
    rw [Node.interpret] at h
    obtain ⟨⟨ns, t⟩, hns, h⟩ := Script.exists_of_bind_eq_ok h
    cases h
    exact Node.numbered_ofSeq (numbered_interpretAll parts hp hns)
  | .alternation branches, hp, h => by
    rw [Node.interpret] at h
    obtain ⟨⟨ns, t⟩, hns, h⟩ := Script.exists_of_bind_eq_ok h
    cases h
    exact Node.numbered_ofAlt (numbered_interpretAll branches hp hns)

theorem numbered_interpretAll {s s' : Switches} {ns : List Node} : (ps : List Pattern) →
    Pattern.NumberedAll ps → Node.interpretAll s ps = .ok (ns, s') → ∀ n ∈ ns, n.Numbered
  | [], _, h => by
    cases h
    simp
  | p :: ps, hps, h => by
    rw [Node.interpretAll] at h
    obtain ⟨⟨n, t⟩, hn, h⟩ := Script.exists_of_bind_eq_ok h
    obtain ⟨⟨ms, u⟩, hms, h⟩ := Script.exists_of_bind_eq_ok h
    cases h
    exact List.forall_mem_cons.mpr
      ⟨numbered_interpret p hps.1 hn, numbered_interpretAll ps hps.2 hms⟩

end

/-! ## Reading -/

namespace Reading

abbrev AllNumbered (ps : List Pattern) : Prop := ∀ p ∈ ps, p.Numbered

/-- A kind of group whose number, if it has one, is positive. -/
def KindNumbered (kind : GroupKind) : Prop := ∀ i, kind = .capture i → 0 < i

/-- All groups that have been read or are open have positive numbers. -/
structure Numbered (r : Reading) : Prop where
  groups : ∀ g ∈ r.groups, KindNumbered g.kind ∧ AllNumbered g.branches ∧ AllNumbered g.parts
  branches : AllNumbered r.branches
  parts : AllNumbered r.parts

variable {r r' : Reading} {p : Pattern} {c : Char} {cs rest : Text}

theorem Numbered.push (h : r.Numbered) (hp : p.Numbered) : (r.push p).Numbered :=
  ⟨h.groups, h.branches, List.forall_mem_cons.mpr ⟨hp, h.parts⟩⟩

theorem Numbered.numbered_close (h : r.Numbered) : r.close.Numbered := by
  refine Pattern.numbered_ofBranches fun p hp => ?_
  rw [List.mem_reverse, List.mem_cons] at hp
  rcases hp with rfl | hp
  · exact Pattern.numbered_ofParts fun p hp => h.parts p (List.mem_reverse.mp hp)
  · exact h.branches p hp

theorem numbered_group {kind : GroupKind} (hkind : KindNumbered kind) (hp : p.Numbered) :
    (Pattern.group kind p).Numbered := by
  cases kind with
  | capture i => exact ⟨hkind i rfl, hp⟩
  | plain fs => exact hp

theorem Numbered.enter (h : r.Numbered) {kind : GroupKind} (hkind : KindNumbered kind)
    (blanks : Bool) : (r.enter kind blanks).Numbered :=
  ⟨List.forall_mem_cons.mpr ⟨⟨hkind, h.branches, h.parts⟩, h.groups⟩, List.forall_mem_nil _,
    List.forall_mem_nil _⟩

theorem Numbered.enterCapture (h : r.Numbered) : r.enterCapture.Numbered :=
  Numbered.enter (r := { r with captures := r.captures + 1 }) ⟨h.groups, h.branches, h.parts⟩
    (fun _ hi => GroupKind.capture.inj hi ▸ Nat.succ_pos _) r.blanks

/-- A group with a name is numbered as one without. -/
theorem Numbered.named (h : r.Numbered) (names : List Text) :
    ({ r with names } : Reading).enterCapture.Numbered :=
  Numbered.enterCapture ⟨h.groups, h.branches, h.parts⟩

theorem Numbered.flags (h : r.Numbered) (fs : FlagList) (blanks : Bool) :
    ({ r.push (.flags fs) with blanks } : Reading).Numbered :=
  have hpush := h.push (p := .flags fs) trivial
  ⟨hpush.groups, hpush.branches, hpush.parts⟩

theorem Numbered.openGroup (h : r.Numbered) (hr : r.openGroup cs = .ok (r', rest)) :
    r'.Numbered := by
  unfold Reading.openGroup at hr
  split at hr
  case h_5 | h_6 =>
    obtain ⟨⟨name, text⟩, -, hr⟩ := Script.exists_of_bind_eq_ok hr
    dsimp only at hr
    split at hr
    · cases hr
    · cases hr
      exact h.named _
  case h_8 =>
    obtain ⟨⟨fs, text⟩, -, hr⟩ := Script.exists_of_bind_eq_ok hr
    dsimp only at hr
    split at hr
    · split at hr
      · cases hr
      · cases hr
        exact h.flags fs _
    · cases hr
      exact h.enter (fun _ hi => by cases hi) _
  case h_9 =>
    cases hr
    exact h.enterCapture
  all_goals cases hr

theorem Numbered.closeGroup (h : r.Numbered) (hr : r.closeGroup = .ok r') : r'.Numbered := by
  unfold Reading.closeGroup at hr
  split at hr
  · cases hr
  · rename_i g groups hgroups
    cases hr
    obtain ⟨⟨hkind, hbranches, hparts⟩, hrest⟩ := List.forall_mem_cons.mp (hgroups ▸ h.groups)
    exact ⟨hrest, hbranches,
      List.forall_mem_cons.mpr ⟨numbered_group hkind h.numbered_close, hparts⟩⟩

theorem Numbered.popOperand (h : r.Numbered) (hr : r.popOperand = .ok (p, r')) :
    p.Numbered ∧ r'.Numbered := by
  unfold Reading.popOperand at hr
  split at hr
  · cases hr
  · cases hr
  · cases hr
  · rename_i q parts _ _ hparts
    cases hr
    obtain ⟨hp, hrest⟩ := List.forall_mem_cons.mp (hparts ▸ h.parts)
    exact ⟨hp, h.groups, h.branches, hrest⟩

theorem Numbered.repeatLast (h : r.Numbered) {least : Nat} {most : Option Nat}
    (hr : r.repeatLast least most cs = .ok (r', rest)) : r'.Numbered := by
  obtain ⟨⟨p, r⟩, hpop, hr⟩ := Script.exists_of_bind_eq_ok hr
  cases hr
  obtain ⟨hp, hr⟩ := h.popOperand hpop
  exact hr.push hp

theorem Numbered.repeatCounted (h : r.Numbered) (hr : r.repeatCounted cs = .ok (r', rest)) :
    r'.Numbered := by
  obtain ⟨⟨p, r⟩, hpop, hr⟩ := Script.exists_of_bind_eq_ok hr
  obtain ⟨⟨least, most, text⟩, -, hr⟩ := Script.exists_of_bind_eq_ok hr
  obtain ⟨hp, hnumbered⟩ := h.popOperand hpop
  dsimp only at hr
  split at hr
  · split at hr
    · cases hr
    · cases hr
      exact hnumbered.push hp
  · cases hr

theorem numbered_ofPrimitive (p : Primitive) : (ofPrimitive p).Numbered := by
  cases p <;> trivial

theorem Numbered.step (h : r.Numbered) (hr : r.step c cs = .ok (r', rest)) : r'.Numbered := by
  unfold Reading.step at hr
  split at hr
  · exact h.openGroup hr
  · obtain ⟨q, hq, heq⟩ := Script.exists_of_map_eq_ok hr
    cases heq
    exact h.closeGroup hq
  · cases hr
    exact ⟨h.groups, List.forall_mem_cons.mpr
      ⟨Pattern.numbered_ofParts fun p hp => h.parts p (List.mem_reverse.mp hp), h.branches⟩,
      List.forall_mem_nil _⟩
  · obtain ⟨q, -, heq⟩ := Script.exists_of_map_eq_ok hr
    cases heq
    exact h.push trivial
  · exact h.repeatLast hr
  · exact h.repeatLast hr
  · exact h.repeatLast hr
  · exact h.repeatCounted hr
  · obtain ⟨q, -, heq⟩ := Script.exists_of_map_eq_ok hr
    cases heq
    exact h.push (numbered_ofPrimitive _)
  all_goals
    cases hr
    exact h.push trivial

theorem Numbered.run {fuel : Nat} (h : r.Numbered) (hr : Reading.run fuel r cs = .ok p) :
    p.Numbered := by
  induction fuel generalizing r cs with
  | zero => cases hr
  | succ fuel ih =>
    unfold Reading.run at hr
    split at hr
    · split at hr
      · cases hr
        exact h.numbered_close
      · cases hr
    · split at hr
      · cases hr
      · rename_i hstep
        exact ih (h.step hstep) hr

end Reading

theorem numbered_parse {blanks : Bool} {cs : Text} {p : Pattern}
    (h : Pattern.parse blanks cs = .ok p) : p.Numbered := by
  obtain ⟨q, hq, h⟩ := Script.exists_of_bind_eq_ok h
  split at h
  · cases h
  · cases h
    exact Reading.Numbered.run (r := { blanks }) ⟨List.forall_mem_nil _,
      List.forall_mem_nil _, List.forall_mem_nil _⟩ hq

/-- The node that a pattern stands for under options. -/
def nodeOf (o : Options) (pattern : Text) : Except Error Node := do
  Node.ofPattern o.switches (← Pattern.parse o.ignoreBlanks pattern)

/-- A compiled expression runs the program of a node, whose groups have positive numbers. -/
structure Runs (r : Regex) (n : Node) : Prop where
  program : r.program = .ofNode n
  numbered : n.Numbered

theorem numbered_nodeOf {o : Options} {pattern : Text} {n : Node} (h : nodeOf o pattern = .ok n) :
    n.Numbered := by
  obtain ⟨p, hp, h⟩ := Script.exists_of_bind_eq_ok h
  obtain ⟨⟨m, s⟩, hm, rfl⟩ := Script.exists_of_map_eq_ok h
  exact numbered_interpret p (numbered_parse hp) hm

theorem build_of_nodeOf {o : Options} {pattern : Text} {n : Node} (h : nodeOf o pattern = .ok n) :
    build o pattern = if n.fits sizeLimit then .ok ⟨.ofNode n⟩ else
      .error (.tooLarge sizeLimit) := by
  obtain ⟨p, hp, h⟩ := Script.exists_of_bind_eq_ok h
  unfold build
  rw [hp]
  show (Node.ofPattern o.switches p).bind _ = _
  rw [h]
  rfl

/-- A pattern that compiles runs the program of its node. -/
theorem exists_node_of_build {o : Options} {pattern : Text} {r : Regex}
    (h : build o pattern = .ok r) : ∃ n, nodeOf o pattern = .ok n ∧ r.Runs n := by
  obtain ⟨p, hp, h'⟩ := Script.exists_of_bind_eq_ok h
  obtain ⟨n, hn, h'⟩ := Script.exists_of_bind_eq_ok h'
  have hnode : nodeOf o pattern = .ok n := by
    unfold nodeOf
    rw [hp]
    exact hn
  split at h'
  · cases h'
    exact ⟨n, hnode, rfl, numbered_nodeOf hnode⟩
  · cases h'

end TagEdit.Regex
