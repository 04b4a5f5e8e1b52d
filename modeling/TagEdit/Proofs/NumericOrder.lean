import Mathlib
import TagEdit.Proofs.Numerals
import TagEdit.Script.Eval

/-!
# The order of operands

The numbers that operands denote are ordered as the whole numbers with an infinity at either end,
so a comparison says how two places in that order lie. The value that is no number has no place:
beside it nothing holds but that the operands are unlike.
-/

namespace TagEdit

namespace Numeral

/-- The place of a value among the numbers; the value that is no number has none. -/
def rank? : Numeral → Option (WithBot (WithTop Int))
  | nan => none
  | negInf => some ⊥
  | finite n => some ((n : WithTop Int) : WithBot (WithTop Int))
  | posInf => some ⊤

variable {a b : Numeral} {x y : WithBot (WithTop Int)}

theorem exists_rank (ha : a ≠ nan) : ∃ x, a.rank? = some x := by
  cases a with
  | nan => exact absurd rfl ha
  | negInf => exact ⟨_, rfl⟩
  | finite n => exact ⟨_, rfl⟩
  | posInf => exact ⟨_, rfl⟩

theorem lt_iff_of_rank (ha : a.rank? = some x) (hb : b.rank? = some y) :
    a.lt b = true ↔ x < y := by
  have htop (n : Int) : ((n : WithTop Int) : WithBot (WithTop Int)) < ⊤ :=
    WithBot.coe_lt_coe.mpr (WithTop.coe_lt_top n)
  cases a <;> cases b <;> cases ha <;> cases hb <;> simp [lt, htop]

theorem eq_iff_of_rank (ha : a.rank? = some x) (hb : b.rank? = some y) :
    a.eq b = true ↔ x = y := by
  have htop (n : Int) : ((n : WithTop Int) : WithBot (WithTop Int)) ≠ ⊤ :=
    (WithBot.coe_lt_coe.mpr (WithTop.coe_lt_top n)).ne
  cases a <;> cases b <;> cases ha <;> cases hb <;> simp [eq, htop]

theorem le_iff_of_rank (ha : a.rank? = some x) (hb : b.rank? = some y) :
    a.le b = true ↔ x ≤ y := by
  rw [le, Bool.or_eq_true, lt_iff_of_rank ha hb, eq_iff_of_rank ha hb, le_iff_lt_or_eq]

theorem eq_symm (a b : Numeral) : a.eq b = b.eq a := by
  cases a <;> cases b <;> first | rfl | exact BEq.comm

end Numeral

namespace Script

variable {value : Text} {ctx : Context} {e a b c : Expr}

/-! ## Operands -/

/-- Whether an operand is a name of the value that is no number. -/
def Expr.IsNan (value : Text) (ctx : Context) (e : Expr) : Prop :=
  Numeral.SpellsNan (e.eval value ctx).trim

/-- Whether an operand denotes a number. -/
def Expr.IsNumber (value : Text) (ctx : Context) (e : Expr) : Prop :=
  Numeral.SpellsNumber (e.eval value ctx).trim

instance : Decidable (e.IsNan value ctx) := inferInstanceAs (Decidable (Numeral.SpellsNan _))

instance : Decidable (e.IsNumber value ctx) := inferInstanceAs (Decidable (Numeral.SpellsNumber _))

theorem exists_rank_of_not_isNan (h : ¬ e.IsNan value ctx) :
    ∃ x, (Numeral.ofText (e.eval value ctx)).rank? = some x :=
  Numeral.exists_rank fun hnan => h ((Numeral.ofText_eq_nan_iff _).mp hnan)

theorem ofText_decimal_zero : Numeral.ofText (Text.decimal 0) = .zero := by decide +kernel

/-- An operand that denotes nothing is as good as the number zero. -/
theorem ofText_eval_of_not (hnan : ¬ e.IsNan value ctx) (hnumber : ¬ e.IsNumber value ctx) :
    Numeral.ofText (e.eval value ctx) = Numeral.ofText ((Expr.int 0).eval value ctx) :=
  (Numeral.ofText_of_not hnumber hnan).trans ofText_decimal_zero.symm

/-! ## Comparisons -/

theorem NumOp.holds_of_nan {m n : Numeral} (h : m = .nan ∨ n = .nan) (op : NumOp) :
    op.holds m n = (op == .ne) := by
  rcases h with rfl | rfl
  · cases op <;> cases n <;> rfl
  · cases op <;> cases m <;> rfl

theorem holds_number_of_isNan (h : a.IsNan value ctx ∨ b.IsNan value ctx) (op : NumOp) :
    (Cond.number a op b).holds value ctx = (op == .ne) :=
  NumOp.holds_of_nan
    (h.imp (Numeral.ofText_eq_nan_iff _).mpr (Numeral.ofText_eq_nan_iff _).mpr) op

theorem count_comparisons (ha : ¬ a.IsNan value ctx) (hb : ¬ b.IsNan value ctx) :
    [(Cond.number a .lt b).holds value ctx, (Cond.number a .eq b).holds value ctx,
      (Cond.number a .gt b).holds value ctx].count true = 1 := by
  obtain ⟨x, hx⟩ := exists_rank_of_not_isNan ha
  obtain ⟨y, hy⟩ := exists_rank_of_not_isNan hb
  have hlt := Numeral.lt_iff_of_rank hx hy
  have heq := Numeral.eq_iff_of_rank hx hy
  have hgt := Numeral.lt_iff_of_rank hy hx
  simp only [Cond.holds, NumOp.holds]
  rcases lt_trichotomy x y with h | h | h
  · rw [hlt.mpr h, Bool.eq_false_iff.mpr fun he => h.ne (heq.mp he),
      Bool.eq_false_iff.mpr fun hg => h.asymm (hgt.mp hg)]
    rfl
  · rw [heq.mpr h, Bool.eq_false_iff.mpr fun hl => (hlt.mp hl).ne h,
      Bool.eq_false_iff.mpr fun hg => (hgt.mp hg).ne h.symm]
    rfl
  · rw [hgt.mpr h, Bool.eq_false_iff.mpr fun hl => h.asymm (hlt.mp hl),
      Bool.eq_false_iff.mpr fun he => h.ne (heq.mp he).symm]
    rfl

theorem holds_eq_self (ha : ¬ a.IsNan value ctx) :
    (Cond.number a .eq a).holds value ctx = true := by
  obtain ⟨x, hx⟩ := exists_rank_of_not_isNan ha
  exact (Numeral.eq_iff_of_rank hx hx).mpr rfl

theorem not_isNan_of_le (h : (Cond.number a .le b).holds value ctx = true) :
    ¬ a.IsNan value ctx ∧ ¬ b.IsNan value ctx := by
  rw [← not_or]
  intro hnan
  rw [holds_number_of_isNan hnan] at h
  exact absurd h (by decide)

theorem holds_le_trans (hab : (Cond.number a .le b).holds value ctx = true)
    (hbc : (Cond.number b .le c).holds value ctx = true) :
    (Cond.number a .le c).holds value ctx = true := by
  obtain ⟨x, hx⟩ := exists_rank_of_not_isNan (not_isNan_of_le hab).1
  obtain ⟨y, hy⟩ := exists_rank_of_not_isNan (not_isNan_of_le hab).2
  obtain ⟨z, hz⟩ := exists_rank_of_not_isNan (not_isNan_of_le hbc).2
  have hxy := (Numeral.le_iff_of_rank hx hy).mp hab
  have hyz := (Numeral.le_iff_of_rank hy hz).mp hbc
  exact (Numeral.le_iff_of_rank hx hz).mpr (hxy.trans hyz)

/-- Comparison is a total order of the operands but for the value that is no number. Of two operands
exactly one comparison holds of less, equal and greater if and only if neither is a name of that
value, and an operand equals itself if and only if it is none; beside such a name nothing holds but
that the operands are unlike. The other comparisons are put together of these three, and an operand
that denotes nothing is compared as the number zero. -/
theorem comparison_total_iff (value : Text) (ctx : Context) (a b c : Expr) :
    let holds (e : Expr) (op : NumOp) (f : Expr) := (Cond.number e op f).holds value ctx
    ([holds a .lt b, holds a .eq b, holds a .gt b].count true = 1 ↔
        ¬ a.IsNan value ctx ∧ ¬ b.IsNan value ctx) ∧
      (holds a .eq a = true ↔ ¬ a.IsNan value ctx) ∧
      (a.IsNan value ctx ∨ b.IsNan value ctx → ∀ op, holds a op b = (op == .ne)) ∧
      holds a .le b = (holds a .lt b || holds a .eq b) ∧
      holds a .ge b = (holds a .gt b || holds a .eq b) ∧
      holds a .ne b = !holds a .eq b ∧
      (holds a .le b = true → holds b .le c = true → holds a .le c = true) ∧
      (¬ a.IsNan value ctx → ¬ a.IsNumber value ctx → ∀ op,
        holds a op b = holds (.int 0) op b ∧ holds b op a = holds b op (.int 0)) := by
  intro holds
  refine ⟨⟨fun h => ?_, fun h => count_comparisons h.1 h.2⟩, ⟨fun h => ?_, holds_eq_self⟩,
    holds_number_of_isNan, rfl, ?_, rfl, holds_le_trans, fun hnan hnumber op => ?_⟩
  · rw [← not_or]
    intro hnan
    simp only [holds, holds_number_of_isNan hnan] at h
    exact absurd h (by decide)
  · intro hnan
    simp only [holds, holds_number_of_isNan (.inl hnan)] at h
    exact absurd h (by decide)
  · exact congrArg (_ || ·) (Numeral.eq_symm _ _)
  · simp only [holds, Cond.holds, ofText_eval_of_not hnan hnumber, and_self]

/-- A word against ten. -/
theorem comparison_total_iff_word :
    let ctx : Context := ⟨"a.mp3".toList, "0:00".toList, 0⟩
    let word : Text := "abc".toList
    let holds (e : Expr) (op : NumOp) (f : Expr) := (Cond.number e op f).holds word ctx
    ¬ (Expr.var .value).IsNan word ctx ∧ ¬ (Expr.int 10).IsNan word ctx ∧
      ¬ (Expr.var .value).IsNumber word ctx ∧
      [holds (.var .value) .lt (.int 10), holds (.var .value) .eq (.int 10),
        holds (.var .value) .gt (.int 10)].count true = 1 ∧
      holds (.var .value) .eq (.var .value) = true ∧
      ∀ op, holds (.var .value) op (.int 10) = holds (.int 0) op (.int 10) := by
  intro ctx word holds
  have hword : ¬ (Expr.var .value).IsNan word ctx := by decide
  have hten : ¬ (Expr.int 10).IsNan word ctx := by decide +kernel
  have hnumber : ¬ (Expr.var .value).IsNumber word ctx := by decide
  obtain ⟨hcount, hself, -, -, -, -, -, hzero⟩ :=
    comparison_total_iff word ctx (.var .value) (.int 10) (.int 0)
  exact ⟨hword, hten, hnumber, hcount.mpr ⟨hword, hten⟩, hself.mpr hword,
    fun op => (hzero hword hnumber op).1⟩

/-- The value `nan` is neither less than zero, nor zero, nor greater, and does not equal itself. -/
theorem nan_unlike_zero_and_itself :
    let ctx : Context := ⟨"a.mp3".toList, "0:00".toList, 0⟩
    let nan : Text := "nan".toList
    let holds (e : Expr) (op : NumOp) (f : Expr) := (Cond.number e op f).holds nan ctx
    [holds (.var .value) .lt (.int 0), holds (.var .value) .eq (.int 0),
        holds (.var .value) .gt (.int 0)].count true = 0 ∧
      holds (.var .value) .eq (.var .value) = false ∧
      holds (.var .value) .eq (.int 0) ≠ holds (.int 0) .eq (.int 0) := by
  decide +kernel

end Script

end TagEdit
