import TagEdit.Proofs.Regex.Matching

/-!
# What compiled patterns accept

A run of a matching program chooses at every fork; `Accepts` says which spots it can accept at.
Every construction of a program passes from its first instruction to the next part as the relation
of its node says, so the program of a node accepts what the node matches. Runs count their steps: a
loop goes round as long as the steps last.
-/

namespace TagEdit.Regex

open Unicode

/-! ## Runs -/

/-- From an instruction at a spot, a run of so many steps accepts at another spot. -/
inductive Accepts (code : Array Instr) : (steps pc : Nat) → Spot → Spot → Prop where
  | accept {pc : Nat} {a : Spot} : code[pc]? = some .accept → Accepts code 0 pc a a
  | silent {n pc : Nat} {i : Instr} {t : Thread} {a b : Spot} : code[pc]? = some i →
      t ∈ Program.successors a.1 a.2 i → Accepts code n t.pc (a.1, t.saves) b →
      Accepts code (n + 1) pc a b
  | take {n pc next : Nat} {s : CharSet} {c : Char} {rest : Text} {a b : Spot} :
      code[pc]? = some (.take s next) → a.1.rest = c :: rest → s.contains c = true →
      Accepts code n next (a.1.advance, a.2) b → Accepts code (n + 1) pc a b

variable {code : Array Instr} {n pc next : Nat} {a b : Spot}

/-- The first step of a run is that of the instruction where it begins. -/
theorem Accepts.first {i : Instr} (hi : code[pc]? = some i) (h : Accepts code n pc a b) :
    (i = .accept ∧ n = 0 ∧ a = b) ∨
      (∃ m, n = m + 1 ∧
        ∃ t ∈ Program.successors a.1 a.2 i, Accepts code m t.pc (a.1, t.saves) b) ∨
      ∃ s next m c, i = .take s next ∧ n = m + 1 ∧ (Node.set s).Matches a c ∧
        Accepts code m next c b := by
  cases h with
  | accept hcode =>
    cases Option.some.inj (hi.symm.trans hcode)
    exact .inl ⟨rfl, rfl, rfl⟩
  | silent hcode ht hacc =>
    cases Option.some.inj (hi.symm.trans hcode)
    exact .inr (.inl ⟨_, rfl, _, ht, hacc⟩)
  | take hcode hrest hc hacc =>
    cases Option.some.inj (hi.symm.trans hcode)
    exact .inr (.inr ⟨_, _, _, _, rfl, rfl, ⟨_, _, hrest, hc, rfl⟩, hacc⟩)

theorem accepts_accept_iff (hi : code[pc]? = some .accept) :
    Accepts code n pc a b ↔ n = 0 ∧ a = b := by
  constructor
  · intro h
    rcases h.first hi with ⟨-, h⟩ | ⟨m, -, t, ht, -⟩ | ⟨s, next, m, c, hne, -⟩
    · exact h
    · cases ht
    · cases hne
  · rintro ⟨rfl, rfl⟩
    exact .accept hi

theorem accepts_silent_iff {i : Instr} (hi : code[pc]? = some i)
    (hrests : Program.rests i = false) : Accepts code n pc a b ↔ ∃ m, n = m + 1 ∧
      ∃ t ∈ Program.successors a.1 a.2 i, Accepts code m t.pc (a.1, t.saves) b := by
  constructor
  · intro h
    rcases h.first hi with ⟨rfl, -⟩ | hstep | ⟨s, next, m, c, rfl, -⟩
    · cases hrests
    · exact hstep
    · cases hrests
  · rintro ⟨m, rfl, t, ht, hacc⟩
    exact .silent hi ht hacc

theorem accepts_take_iff {s : CharSet} (hi : code[pc]? = some (.take s next)) :
    Accepts code n pc a b ↔ ∃ m c, n = m + 1 ∧ (Node.set s).Matches a c ∧
      Accepts code m next c b := by
  constructor
  · intro h
    rcases h.first hi with ⟨hne, -⟩ | ⟨m, -, t, ht, -⟩ | ⟨_, _, m, c, heq, hstep⟩
    · cases hne
    · cases ht
    · cases heq
      exact ⟨m, c, hstep⟩
  · rintro ⟨m, _, rfl, ⟨c, rest, hrest, hc, rfl⟩, hacc⟩
    exact .take hi hrest hc hacc

theorem accepts_fork_iff {greedy : Bool} {x y : Nat}
    (hi : code[pc]? = some (Program.forkTo greedy x y)) :
    Accepts code n pc a b ↔ ∃ m, n = m + 1 ∧ (Accepts code m x a b ∨ Accepts code m y a b) := by
  have hrests : Program.rests (Program.forkTo greedy x y) = false := by cases greedy <;> rfl
  rw [accepts_silent_iff hi hrests]
  cases greedy <;> simp [Program.forkTo, Program.successors, or_comm]

/-! ## From one instruction to another -/

/-- From an instruction on, runs do what a relation says and go on at another instruction. -/
structure Passes (code : Array Instr) (pc : Nat) (R : Spot → Spot → Prop) (exit : Nat) : Prop where
  sound : ∀ {n a b}, Accepts code n pc a b → ∃ m c, m ≤ n ∧ R a c ∧ Accepts code m exit c b
  complete : ∀ {m a b c}, R a c → Accepts code m exit c b → ∃ n, Accepts code n pc a b

namespace Passes

variable {mid exit x y : Nat} {R S : Spot → Spot → Prop}

theorem refl (code : Array Instr) (pc : Nat) : Passes code pc Eq pc where
  sound h := ⟨_, _, Nat.le_refl _, rfl, h⟩
  complete hR h := ⟨_, hR ▸ h⟩

theorem trans (hR : Passes code pc R mid) (hS : Passes code mid S exit) :
    Passes code pc (Relation.Comp R S) exit where
  sound h := by
    obtain ⟨m, c, hm, hac, h⟩ := hR.sound h
    obtain ⟨l, d, hl, hcd, h⟩ := hS.sound h
    exact ⟨l, d, Nat.le_trans hl hm, ⟨c, hac, hcd⟩, h⟩
  complete := by
    rintro m a b d ⟨c, hac, hcd⟩ h
    obtain ⟨l, h⟩ := hS.complete hcd h
    exact hR.complete hac h

theorem congr (h : Passes code pc R exit) (hRS : ∀ a b, R a b ↔ S a b) : Passes code pc S exit := by
  have heq : R = S := funext₂ fun a b => propext (hRS a b)
  exact heq ▸ h

/-- An instruction that takes up nothing and goes on at one other. -/
theorem silent {i : Instr} (hi : code[pc]? = some i) (hrests : Program.rests i = false)
    (hexit : ∀ a : Spot, ∀ t ∈ Program.successors a.1 a.2 i, t.pc = exit) :
    Passes code pc (fun a b => ∃ t ∈ Program.successors a.1 a.2 i, b = (a.1, t.saves)) exit where
  sound := by
    intro n a b h
    obtain ⟨m, rfl, t, ht, hacc⟩ := (accepts_silent_iff hi hrests).mp h
    rw [hexit a t ht] at hacc
    exact ⟨m, _, Nat.le_succ m, ⟨t, ht, rfl⟩, hacc⟩
  complete := by
    rintro m a b _ ⟨t, ht, rfl⟩ hacc
    exact ⟨m + 1, (accepts_silent_iff hi hrests).mpr ⟨m, rfl, t, ht, by rwa [hexit a t ht]⟩⟩

theorem look {l : Look} (hi : code[pc]? = some (.look l exit)) :
    Passes code pc (Node.look l).Matches exit := by
  have hexit : ∀ a : Spot, ∀ t ∈ Program.successors a.1 a.2 (.look l exit), t.pc = exit := by
    intro a t ht
    simp only [Program.successors] at ht
    split at ht <;> simp_all
  refine (silent hi rfl hexit).congr fun a b => ?_
  by_cases h : l.holds a.1 <;> simp [Program.successors, Node.Matches, h]

/-- Notes a place. -/
def Notes (slot : Nat) (a b : Spot) : Prop := b = (a.1, (slot, a.1.pos) :: a.2)

theorem save {slot : Nat} (hi : code[pc]? = some (.save slot exit)) :
    Passes code pc (Notes slot) exit := by
  have hexit : ∀ a : Spot, ∀ t ∈ Program.successors a.1 a.2 (.save slot exit), t.pc = exit := by
    simp [Program.successors]
  exact (silent hi rfl hexit).congr fun a b => by simp [Program.successors, Notes]

theorem take {s : CharSet} (hi : code[pc]? = some (.take s exit)) :
    Passes code pc (Node.set s).Matches exit where
  sound := by
    intro n a b h
    obtain ⟨m, c, rfl, hac, hacc⟩ := (accepts_take_iff hi).mp h
    exact ⟨m, c, Nat.le_succ m, hac, hacc⟩
  complete hac hacc := ⟨_, (accepts_take_iff hi).mpr ⟨_, _, rfl, hac, hacc⟩⟩

theorem fork (greedy : Bool) (hi : code[pc]? = some (Program.forkTo greedy x y))
    (hR : Passes code x R exit) (hS : Passes code y S exit) :
    Passes code pc (fun a b => R a b ∨ S a b) exit where
  sound := by
    intro n a b h
    obtain ⟨m, rfl, h | h⟩ := (accepts_fork_iff hi).mp h
    · obtain ⟨l, c, hl, hac, h⟩ := hR.sound h
      exact ⟨l, c, Nat.le_succ_of_le hl, .inl hac, h⟩
    · obtain ⟨l, c, hl, hac, h⟩ := hS.sound h
      exact ⟨l, c, Nat.le_succ_of_le hl, .inr hac, h⟩
  complete := by
    rintro m a b c (hac | hac) h
    · obtain ⟨l, h⟩ := hR.complete hac h
      exact ⟨l + 1, (accepts_fork_iff hi).mpr ⟨l, rfl, .inl h⟩⟩
    · obtain ⟨l, h⟩ := hS.complete hac h
      exact ⟨l + 1, (accepts_fork_iff hi).mpr ⟨l, rfl, .inr h⟩⟩

/-- A fork into a loop that comes back to it: the body is run any number of times. The induction is
on the length of the run, for every round begins with the step of the fork. -/
theorem loop (greedy : Bool) (hi : code[pc]? = some (Program.forkTo greedy x exit))
    (hR : Passes code x R pc) : Passes code pc (Repeated R 0 none) exit where
  sound := by
    intro n
    induction n using Nat.strongRecOn with
    | ind n ih =>
      intro a b h
      obtain ⟨m, rfl, h | h⟩ := (accepts_fork_iff hi).mp h
      · obtain ⟨l, c, hl, hac, h⟩ := hR.sound h
        obtain ⟨j, d, hj, ⟨r, -, -, hcd⟩, h⟩ := ih l (Nat.lt_succ_of_le hl) h
        exact ⟨j, d, Nat.le_trans hj (Nat.le_succ_of_le hl),
          ⟨r + 1, Nat.zero_le _, by simp, c, hac, hcd⟩, h⟩
      · exact ⟨m, a, Nat.le_succ m, ⟨0, Nat.le_refl 0, by simp, rfl⟩, h⟩
  complete := by
    rintro m a b c ⟨r, -, -, hac⟩ h
    induction r generalizing a with
    | zero =>
      cases hac
      exact ⟨m + 1, (accepts_fork_iff hi).mpr ⟨m, rfl, .inr h⟩⟩
    | succ r ih =>
      obtain ⟨d, had, hdc⟩ := hac
      obtain ⟨l, hd⟩ := ih hdc
      obtain ⟨j, ha⟩ := hR.complete had hd
      exact ⟨j + 1, (accepts_fork_iff hi).mpr ⟨j, rfl, .inl ha⟩⟩

end Passes

/-! ## Repetitions -/

section

variable {α : Type} {R : α → α → Prop} {a b : α}

theorem power_one : power R 1 = R := by
  funext a b
  simp [power, Relation.Comp]

theorem power_add (m n : Nat) : power R (m + n) = Relation.Comp (power R m) (power R n) := by
  induction m with
  | zero => rw [Nat.zero_add, power, Relation.eq_comp]
  | succ m ih => rw [Nat.add_right_comm, power, power, ih, Relation.comp_assoc]

theorem power_succ (n : Nat) : power R (n + 1) = Relation.Comp (power R n) R := by
  rw [power_add, power_one]

/-- A number of rounds and then a repetition. -/
theorem comp_repeated_iff (m : Nat) {least : Nat} {most : Option Nat} :
    Relation.Comp (power R m) (Repeated R least most) a b ↔
      Repeated R (m + least) (most.map (m + ·)) a b := by
  constructor
  · rintro ⟨c, hac, n, hleast, hmost, hcb⟩
    refine ⟨m + n, by omega, ?_, by rw [power_add]; exact ⟨c, hac, hcb⟩⟩
    intro k hk
    obtain ⟨l, hl, rfl⟩ := Option.map_eq_some_iff.mp hk
    have := hmost l hl
    omega
  · rintro ⟨n, hleast, hmost, hab⟩
    obtain ⟨k, rfl⟩ : ∃ k, n = m + k := ⟨n - m, by omega⟩
    rw [power_add] at hab
    obtain ⟨c, hac, hcb⟩ := hab
    refine ⟨c, hac, k, by omega, fun l hl => ?_, hcb⟩
    have := hmost _ (Option.map_eq_some_iff.mpr ⟨l, hl, rfl⟩)
    omega

/-- A round and then a repetition. -/
theorem comp_repeated_one_iff {least : Nat} {most : Option Nat} :
    Relation.Comp R (Repeated R least most) a b ↔
      Repeated R (1 + least) (most.map (1 + ·)) a b := by
  have h := @comp_repeated_iff _ R a b 1 least most
  rwa [power_one] at h

/-- No round, or a round and then a repetition. -/
theorem or_repeated_iff {most : Option Nat} :
    (Relation.Comp R (Repeated R 0 most) a b ∨ a = b) ↔ Repeated R 0 (most.map (1 + ·)) a b := by
  rw [comp_repeated_one_iff]
  constructor
  · rintro (⟨n, -, hmost, hab⟩ | rfl)
    · refine ⟨n, Nat.zero_le n, fun k hk => ?_, hab⟩
      have := hmost k hk
      obtain ⟨l, -, rfl⟩ := Option.map_eq_some_iff.mp hk
      omega
    · exact ⟨0, Nat.le_refl 0, fun _ _ => Nat.zero_le _, rfl⟩
  · rintro ⟨n, -, hmost, hab⟩
    rcases n with _ | n
    · exact .inr hab
    · refine .inl ⟨n + 1, by omega, fun k hk => ?_, hab⟩
      have := hmost k hk
      omega

end

/-! ## Constructions -/

namespace Program

/-- Instructions have been added behind others. -/
def Grown (part code : Array Instr) : Prop :=
  part.size ≤ code.size ∧ ∀ i < part.size, code[i]? = part[i]?

theorem Grown.refl (part : Array Instr) : Grown part part := ⟨Nat.le_refl _, fun _ _ => rfl⟩

theorem Grown.trans {a b c : Array Instr} (h1 : Grown a b) (h2 : Grown b c) : Grown a c :=
  ⟨Nat.le_trans h1.1 h2.1, fun i hi => (h2.2 i (Nat.lt_of_lt_of_le hi h1.1)).trans (h1.2 i hi)⟩

theorem Grown.push (part : Array Instr) (i : Instr) : Grown part (part.push i) :=
  ⟨by simp, fun j hj => by rw [Array.getElem?_push_lt hj, Array.getElem?_eq_getElem hj]⟩

theorem Grown.set {part code : Array Instr} (h : Grown part code) {j : Nat} (hj : part.size ≤ j)
    (i : Instr) : Grown part (code.setIfInBounds j i) :=
  ⟨by simpa using h.1, fun k hk => by
    rw [Array.getElem?_setIfInBounds_ne (by omega), h.2 k hk]⟩

/-- Instructions of a construction, from a place on, stand in the finished code. -/
def Holds (code : Array Instr) (lo : Nat) (part : Array Instr) : Prop :=
  ∀ i, lo ≤ i → i < part.size → code[i]? = part[i]?

theorem Holds.of_grown {code part more : Array Instr} {lo : Nat} (h : Holds code lo more)
    (hg : Grown part more) : Holds code lo part := fun i hlo hi =>
  (h i hlo (Nat.lt_of_lt_of_le hi hg.1)).trans (hg.2 i hi)

theorem Holds.mono {code part : Array Instr} {lo hi : Nat} (h : Holds code lo part)
    (hle : lo ≤ hi) : Holds code hi part := fun i hlo => h i (Nat.le_trans hle hlo)

/-- The instruction that has been added last. -/
theorem Holds.last {code part : Array Instr} {i : Instr} {lo : Nat}
    (h : Holds code lo (part.push i)) (hlo : lo ≤ part.size) : code[part.size]? = some i := by
  rw [h part.size hlo (by simp), Array.getElem?_push_size]

/-- Instructions have been added, and all code that they stand in has some property. -/
def Adds (p q : Part) (P : Array Instr → Prop) : Prop :=
  Grown p.2 q.2 ∧ ∀ code, Holds code p.2.size q.2 → P code

variable {P Q : Array Instr → Prop} {p q r : Part}

theorem Adds.trans (h1 : Adds p q P) (h2 : Adds q r Q) : Adds p r fun code => P code ∧ Q code :=
  ⟨h1.1.trans h2.1, fun code h => ⟨h1.2 code (h.of_grown h2.1), h2.2 code (h.mono h1.1.1)⟩⟩

theorem Adds.imp (h : Adds p q P) (hPQ : ∀ code, P code → Q code) : Adds p q Q :=
  ⟨h.1, fun code hcode => hPQ code (h.2 code hcode)⟩

theorem adds_emit (i : Instr) (code : Array Instr) (next : Nat) :
    Adds (next, code) (emit i code) fun all => all[(emit i code).1]? = some i :=
  ⟨.push _ _, fun _ h => h.last (Nat.le_refl _)⟩

/-- A construction adds instructions that do what a relation says. -/
def Implements (f : Part → Part) (R : Spot → Spot → Prop) : Prop :=
  ∀ p, Adds p (f p) fun code => Passes code (f p).1 R p.1

variable {f g body : Part → Part} {R S : Spot → Spot → Prop} {greedy : Bool} {after : Nat}

theorem Implements.congr (h : Implements f R) (hRS : ∀ a b, R a b ↔ S a b) : Implements f S :=
  fun p => (h p).imp fun _ hp => hp.congr hRS

theorem implements_id : Implements (fun p => p) Eq := fun _ =>
  ⟨.refl _, fun code _ => .refl code _⟩

/-- The second construction stands in front of the first one. -/
theorem Implements.comp (hg : Implements g S) (hf : Implements f R) :
    Implements (fun p => f (g p)) (Relation.Comp R S) := fun p =>
  ((hg p).trans (hf (g p))).imp fun _ h => h.2.trans h.1

/-- A single instruction that goes on at the rest. -/
theorem implements_emit {i : Nat → Instr}
    (h : ∀ {code : Array Instr} {pc next : Nat}, code[pc]? = some (i next) →
      Passes code pc R next) :
    Implements (fun p => emit (i p.1) p.2) R := fun p =>
  (adds_emit (i p.1) p.2 p.1).imp fun _ hi => h hi

theorem Implements.times (hf : Implements f R) (n : Nat) :
    Implements (times f n) (power R n) := by
  induction n with
  | zero => exact implements_id
  | succ n ih =>
    rw [power_succ]
    exact hf.comp ih

/-- A body that comes back to the fork behind it. -/
theorem Implements.adds_loop (hbody : Implements body R) (greedy : Bool) (p : Part) :
    Adds p (Program.loop body greedy p) fun code =>
      Passes code (Program.loop body greedy p).1 R p.2.size ∧
        Passes code p.2.size (Repeated R 0 none) p.1 := by
  obtain ⟨hgrown, hpasses⟩ := hbody (p.2.size, p.2.push .accept)
  have hfork : p.2.size < (body (p.2.size, p.2.push .accept)).2.size :=
    Nat.lt_of_lt_of_le (by simp) hgrown.1
  refine ⟨((Grown.push _ _).trans hgrown).set (Nat.le_refl _) _, fun code hcode => ?_⟩
  -- The fork takes the place of one instruction, which the body goes on at; the instructions of the
  -- body itself stand behind it and stay as they are.
  have hround : Passes code (Program.loop body greedy p).1 R p.2.size := by
    refine hpasses code fun i hlo hi => ?_
    have hlo : p.2.size + 1 ≤ i := by simpa using hlo
    rw [hcode i (by omega) (by simpa [Program.loop] using hi)]
    exact Array.getElem?_setIfInBounds_ne (by omega)
  have hi : code[p.2.size]? = some (forkTo greedy (Program.loop body greedy p).1 p.1) := by
    rw [hcode _ (Nat.le_refl _) (by simpa [Program.loop] using hfork)]
    simp [Program.loop, hfork]
  exact ⟨hround, .loop greedy hi hround⟩

theorem Implements.loop (hbody : Implements body R) (greedy : Bool) :
    Implements (Program.loop body greedy) (Repeated R 1 none) := fun p =>
  (hbody.adds_loop greedy p).imp fun _ ⟨hround, hloop⟩ =>
    (hround.trans hloop).congr fun _ _ => comp_repeated_one_iff

theorem Implements.star (hbody : Implements body R) (greedy : Bool) :
    Implements (Program.star body greedy) (Repeated R 0 none) := fun p =>
  (hbody.adds_loop greedy p).imp fun _ h => h.2

/-- A body that is passed over or run, in front of instructions that get to the same place. -/
theorem Implements.adds_optional (hbody : Implements body R) (greedy : Bool) (after : Nat)
    (p : Part) : Adds p (optional body greedy after p) fun code => ∀ S, Passes code p.1 S after →
      Passes code (optional body greedy after p).1 (fun a b => Relation.Comp R S a b ∨ a = b)
        after :=
  ((hbody p).trans (adds_emit _ _ _)).imp fun code ⟨hrun, hfork⟩ _ hrest =>
    .fork greedy hfork (hrun.trans hrest) (.refl code after)

/-- Bodies one in front of another, each of which may end the repetition. -/
theorem Implements.adds_optionals (hbody : Implements body R) (greedy : Bool) (after : Nat)
    (n j : Nat) (p : Part) : Adds p (Program.times (optional body greedy after) n p) fun code =>
      Passes code p.1 (Repeated R 0 (some j)) after →
      Passes code (Program.times (optional body greedy after) n p).1
        (Repeated R 0 (some (n + j))) after := by
  induction n generalizing p j with
  | zero => exact ⟨.refl _, fun _ _ h => by rwa [Nat.zero_add]⟩
  | succ n ih =>
    refine ((hbody.adds_optional greedy after p).trans (ih (j + 1) _)).imp ?_
    rintro code ⟨hfirst, hmore⟩ hrest
    rw [Nat.add_right_comm, Nat.add_assoc]
    refine hmore ((hfirst _ hrest).congr fun a b => ?_)
    rw [or_repeated_iff, Option.map_some, Nat.add_comm]

/-- A loop that may be passed over. -/
theorem Implements.optional_loop (hbody : Implements body R) (greedy : Bool) :
    Implements (fun p => optional (Program.loop body greedy) greedy p.1 p) (Repeated R 0 none) := by
  intro p
  refine ((hbody.loop greedy).adds_optional greedy p.1 p).imp fun code h => ?_
  refine (h Eq (.refl code p.1)).congr fun a b => ?_
  rw [Relation.comp_eq]
  have hsome := @comp_repeated_one_iff _ R a b 0 none
  exact (or_congr_left hsome.symm).trans (@or_repeated_iff _ R a b none)

/-- A body that is run so many times at least. -/
theorem Implements.unbounded (hbody : Implements body R) (greedy : Bool) {least : Nat}
    (h : 0 < least) :
    Implements (fun p => Program.times body (least - 1) (Program.loop body greedy p))
      (Repeated R least none) := by
  refine ((hbody.loop greedy).comp (hbody.times (least - 1))).congr fun a b => ?_
  rw [comp_repeated_iff, Nat.sub_add_cancel h]
  rfl

/-- A body that is run a number of times between two bounds. -/
theorem Implements.bounded (hbody : Implements body R) (greedy : Bool) (least most : Nat) :
    Implements (fun p => Program.times body least
      (Program.times (optional body greedy p.1) (most - least) p))
      (Repeated R least (some most)) := by
  intro p
  refine ((hbody.adds_optionals greedy p.1 (most - least) 0 p).trans
    (hbody.times least _)).imp fun code ⟨hrest, hfirst⟩ => ?_
  have hnone : Passes code p.1 (Repeated R 0 (some 0)) p.1 :=
    (Passes.refl code p.1).congr fun a b => by simp [Repeated, power]
  refine (hfirst.trans (hrest hnone)).congr fun a b => ?_
  have hbound : max least (least + (most - least)) = max least most := by omega
  rw [comp_repeated_iff, Option.map_some]
  simp only [Repeated, Option.some.injEq, forall_eq', Nat.add_zero, hbound]

/-! ## Nodes -/

theorem comp_single_text_iff {c : Char} {t : Text} {a b : Spot} :
    Relation.Comp (Node.set (.single c.toNat)).Matches (Node.text t).Matches a b ↔
      (Node.text (c :: t)).Matches a b := by
  have hc : ∀ d : Char, (CharSet.single c.toNat).contains d = true ↔ d = c := fun d => by
    rw [CharSet.contains, CharSet.memCode_single, decide_eq_true_eq, Char.toNat_inj]
  constructor
  · rintro ⟨_, ⟨d, rest, hrest, hd, rfl⟩, more, hmore, rfl⟩
    rw [Cursor.advance_of_cons hrest] at hmore
    refine ⟨more, ?_, rfl⟩
    rw [hrest, (hc d).mp hd, List.cons_append, ← hmore]
  · rintro ⟨more, hmore, rfl⟩
    refine ⟨_, ⟨c, t ++ more, hmore, (hc c).mpr rfl, rfl⟩, more, ?_, rfl⟩
    rw [Cursor.advance_of_cons hmore]
    rfl

theorem implements_compileText (t : Text) : Implements (compileText t) (Node.text t).Matches := by
  induction t with
  | nil => exact implements_id.congr fun a b => ⟨fun h => ⟨_, rfl, h.symm⟩, fun ⟨_, _, h⟩ => h.symm⟩
  | cons c t ih =>
    have h := ih.comp (implements_emit (i := .take (.single c.toNat)) .take)
    exact h.congr fun _ _ => comp_single_text_iff

theorem comp_notes_iff {i : Nat} {R : Spot → Spot → Prop} {a b : Spot} :
    Relation.Comp (Passes.Notes (2 * i)) (Relation.Comp R (Passes.Notes (2 * i + 1))) a b ↔
      ∃ c, R (a.1, (2 * i, a.1.pos) :: a.2) c ∧ b = (c.1, (2 * i + 1, c.1.pos) :: c.2) := by
  constructor
  · rintro ⟨_, rfl, c, hac, hcb⟩
    exact ⟨c, hac, hcb⟩
  · rintro ⟨c, hac, hcb⟩
    exact ⟨_, rfl, c, hac, hcb⟩

mutual

theorem implements_compile : (n : Node) → Implements (compile n) n.Matches
  | .empty => implements_id
  | .text t => implements_compileText t
  | .set _ => implements_emit .take
  | .look _ => implements_emit .look
  | .seq ns => implements_compileSeq ns
  | .alt ns => implements_compileAlt ns
  | .capture _ body =>
    (((implements_emit .save).comp (implements_compile body)).comp (implements_emit .save)).congr
      fun _ _ => comp_notes_iff
  | .repeat least none greedy body => fun p => by
    have hbody := implements_compile body
    rw [compile]
    split
    · rename_i hleast
      subst hleast
      split
      · exact hbody.star greedy p
      · exact hbody.optional_loop greedy p
    · rename_i hleast
      exact hbody.unbounded greedy (Nat.pos_of_ne_zero hleast) p
  | .repeat least (some most) greedy body => (implements_compile body).bounded greedy least most

theorem implements_compileSeq : (ns : List Node) → Implements (compileSeq ns) (Node.matchesSeq ns)
  | [] => implements_id
  | n :: ns => (implements_compileSeq ns).comp (implements_compile n)

theorem implements_compileAlt : (ns : List Node) → Implements (compileAlt ns) (Node.matchesAlt ns)
  | [] => (implements_emit .take).congr fun a b => by simp [Node.matchesAlt, Node.Matches]
  | [n] => (implements_compile n).congr fun a b => by simp [Node.matchesAlt]
  | n :: m :: ns => fun p =>
    (((implements_compileAlt (m :: ns) p).trans (implements_compile n (p.1, _))).trans
      (adds_emit _ _ p.1)).imp fun _ ⟨⟨hrest, hfirst⟩, hfork⟩ => .fork true hfork hfirst hrest

end

/-! ## Whole programs -/

section

variable {n : Node} {k : Cursor} {b : Spot}

theorem exists_code_ofNode (n : Node) :
    ∃ next, (ofNode n).code[(ofNode n).start]? = some (.save 0 next) := by
  refine ⟨(compile n (emit (.save 1 0) (emit .accept #[]).2)).1, ?_⟩
  exact Array.getElem?_push_size

/-- The program of a node accepts what the node matches, between the places of the whole match. -/
theorem accepts_ofNode_iff :
    (∃ steps, Accepts (ofNode n).code steps (ofNode n).start (k, []) b) ↔
      ∃ c, n.Matches (k, [(0, k.pos)]) c ∧ b = (c.1, (1, c.1.pos) :: c.2) := by
  obtain ⟨hgrown, hpasses⟩ := implements_compile (.capture 0 n) (emit .accept #[])
  have hcode : (ofNode n).code[0]? = some .accept := hgrown.2 0 (by decide)
  have hpass : Passes (ofNode n).code (ofNode n).start (Node.capture 0 n).Matches 0 :=
    hpasses _ fun _ _ _ => rfl
  constructor
  · rintro ⟨steps, h⟩
    obtain ⟨m, c, -, hac, h⟩ := hpass.sound h
    obtain ⟨-, rfl⟩ := (accepts_accept_iff hcode).mp h
    exact hac
  · intro h
    exact hpass.complete h (.accept hcode)

end

end Program

end TagEdit.Regex
