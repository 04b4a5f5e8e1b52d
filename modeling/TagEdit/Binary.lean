import TagEdit.Text.Utf8

/-!
# Numbers in bytes

Numbers of a fixed width, the most significant digit first: base 256 uses all of
a byte, base 128 leaves its high bit free. `decode_encode` says that a number
that fits its width reads back.
-/

namespace TagEdit.Binary

/-- The number that some digits denote. -/
def decode (base : Nat) (bs : Bytes) : Nat := bs.foldl (fun n b => n * base + b.toNat % base) 0

/-- The digits of a number, of which the width is given. -/
def encode (base : Nat) : Nat → Nat → Bytes
  | 0, _ => []
  | width + 1, n => encode base width (n / base) ++ [UInt8.ofNat (n % base)]

def hasBit (n mask : Nat) : Bool := n &&& mask != 0

@[simp] theorem length_encode (base width n : Nat) : (encode base width n).length = width := by
  induction width generalizing n with
  | zero => rfl
  | succ w ih => simp [encode, ih]

theorem decode_encode {base width n : Nat} (hb : 0 < base) (hb' : base ≤ 256)
    (h : n < Nat.pow base width) : decode base (encode base width n) = n := by
  induction width generalizing n with
  | zero => simp at h; simp [encode, decode, h]
  | succ w ih =>
    have hq : n / base < Nat.pow base w := (Nat.div_lt_iff_lt_mul hb).2 h
    have hr : n % base < base := Nat.mod_lt _ hb
    have := ih hq
    unfold decode at this ⊢
    simp only [encode, List.foldl_append, this, List.foldl_cons, List.foldl_nil]
    rw [UInt8.toNat_ofNat', Nat.mod_eq_of_lt (by omega : n % base < 256), Nat.mod_mod]
    exact Nat.div_add_mod' n base

end TagEdit.Binary
