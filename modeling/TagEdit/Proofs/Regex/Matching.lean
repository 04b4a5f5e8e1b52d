import Mathlib.Logic.Relation
import TagEdit.Regex.Search

/-!
# What nodes match

`Node.Matches n a b`: from the spot `a`, the node `n` can match the text up to the spot `b`. A
spot is a place in a text with the places noted on the way. This is the meaning of patterns without
any order of preference, which a search decides on.
-/

namespace TagEdit.Regex

open Unicode

/-! ## Places -/

namespace Cursor

variable {k : Cursor}

@[simp] theorem advanceBy_zero (k : Cursor) : advanceBy 0 k = k := rfl

theorem advanceBy_succ (n : Nat) (k : Cursor) : advanceBy (n + 1) k = advanceBy n k.advance := rfl

theorem advance_of_cons {c : Char} {rest : Text} (h : k.rest = c :: rest) :
    k.advance = ⟨k.pos + 1, some c, rest⟩ := by
  unfold advance
  rw [h]

theorem advance_of_nil (h : k.rest = []) : k.advance = k := by
  unfold advance
  rw [h]

theorem advanceBy_add (m n : Nat) (k : Cursor) :
    advanceBy (m + n) k = advanceBy n (advanceBy m k) := by
  induction m generalizing k with
  | zero => rw [Nat.zero_add, advanceBy_zero]
  | succ m ih => rw [Nat.add_right_comm, advanceBy_succ, advanceBy_succ, ih]

theorem rest_advanceBy (n : Nat) (k : Cursor) : (advanceBy n k).rest = k.rest.drop n := by
  induction n generalizing k with
  | zero => rfl
  | succ n ih =>
    rw [advanceBy_succ, ih]
    rcases h : k.rest with _ | ⟨c, rest⟩
    · rw [advance_of_nil h, h, List.drop_nil, List.drop_nil]
    · rw [advance_of_cons h, List.drop_succ_cons]

theorem pos_advanceBy {n : Nat} (h : n ≤ k.rest.length) : (advanceBy n k).pos = k.pos + n := by
  induction n generalizing k with
  | zero => rfl
  | succ n ih =>
    rcases hk : k.rest with _ | ⟨c, rest⟩
    · rw [hk] at h
      cases h
    · rw [hk, List.length_cons, Nat.succ_le_succ_iff] at h
      rw [advanceBy_succ, advance_of_cons hk, ih h, Nat.add_right_comm, Nat.add_assoc]

end Cursor

/-- A place in a text and what has been noted on the way to it. -/
abbrev Spot := Cursor × Saves

/-! ## Relations -/

/-- Goes through a relation a number of times. -/
def power {α : Type} (R : α → α → Prop) : Nat → α → α → Prop
  | 0 => Eq
  | n + 1 => Relation.Comp R (power R n)

/-- Goes through a relation as often as two bounds allow. -/
def Repeated {α : Type} (R : α → α → Prop) (least : Nat) (most : Option Nat) (a b : α) : Prop :=
  ∃ n, least ≤ n ∧ (∀ m, most = some m → n ≤ max least m) ∧ power R n a b

namespace Node

mutual

/-- What a node matches. -/
def Matches : Node → Spot → Spot → Prop
  | .empty => Eq
  | .text t => fun a b =>
    ∃ rest, a.1.rest = t ++ rest ∧ b = (.advanceBy t.length a.1, a.2)
  | .set s => fun a b =>
    ∃ c rest, a.1.rest = c :: rest ∧ s.contains c = true ∧ b = (a.1.advance, a.2)
  | .look l => fun a b => l.holds a.1 = true ∧ b = a
  | .seq ns => matchesSeq ns
  | .alt ns => matchesAlt ns
  | .repeat least most _ body => Repeated body.Matches least most
  | .capture i body => fun a b =>
    ∃ c, body.Matches (a.1, (2 * i, a.1.pos) :: a.2) c ∧ b = (c.1, (2 * i + 1, c.1.pos) :: c.2)

def matchesSeq : List Node → Spot → Spot → Prop
  | [] => Eq
  | n :: ns => Relation.Comp n.Matches (matchesSeq ns)

def matchesAlt : List Node → Spot → Spot → Prop
  | [] => fun _ _ => False
  | n :: ns => fun a b => n.Matches a b ∨ matchesAlt ns a b

end

end Node
end TagEdit.Regex
