import RecordFilter.Comparison
/-!
# The order of doubles

`compareFloats` asks three questions of two doubles.  The answers together are the comparison of
the two unpacked numbers (`compareFloats_eq`), so that two doubles have no order exactly when one
of them is not a number (`compareFloats_eq_none_iff`), and exchanging them exchanges the answer
(`compareFloats_swap`).
-/

namespace RecordFilter

open Float.Model (UnpackedFloat)

/-! ### Unpacked numbers -/

/-- `UnpackedFloat.compare` of exchanged numbers exchanges before and after. -/
theorem unpackedCompare_swap (a b : UnpackedFloat) :
    b.compare a = (a.compare b).map Ordering.swap := by
  -- only two finite numbers need more than their forms and signs
  cases a with
  | notANumber => cases b <;> rfl
  | infinity s =>
    cases b with
    | infinity s' => cases s <;> cases s' <;> rfl
    | notANumber => cases s <;> rfl
    | zero s' => cases s <;> rfl
    | finite s' m' e' hm' => cases s <;> cases s' <;> rfl
  | zero s =>
    cases b with
    | infinity s' => cases s' <;> rfl
    | notANumber => rfl
    | zero s' => rfl
    | finite s' m' e' hm' => cases s' <;> rfl
  | finite s m e hm =>
    cases b with
    | infinity s' => cases s <;> cases s' <;> rfl
    | notANumber => cases s <;> rfl
    | zero s' => cases s <;> rfl
    | finite s' m' e' hm' =>
      -- same sign: exponents decide, then mantissas; both comparisons are antisymmetric
      have hexp : compare e' e = (compare e e').swap := Std.OrientedOrd.eq_swap
      have hman : compare m' m = (compare m m').swap := (Nat.compare_swap m m').symm
      have hmagnitude : (compare e' e).then (compare m' m) =
          ((compare e e').then (compare m m')).swap := by
        rw [hexp, hman, Ordering.swap_then]
      cases s with
      | positive =>
        cases s' with
        | positive => exact congrArg some hmagnitude
        | negative => rfl
      | negative =>
        cases s' with
        | positive => rfl
        | negative => exact congrArg (some ·.swap) hmagnitude

/-- `UnpackedFloat.compare` orders two numbers unless one of them is not a number. -/
private theorem unpackedCompare_isSome (a b : UnpackedFloat) :
    (a.compare b).isSome = !(a.isNaN || b.isNaN) := by
  -- whatever the other number is, the forms and signs decide
  cases a with
  | notANumber => rfl
  | infinity s =>
    cases b with
    | notANumber => rfl
    | infinity s' => rfl
    | _ => cases s <;> rfl
  | zero s =>
    cases b with
    | infinity s' => cases s' <;> rfl
    | finite s' m' e' hm' => cases s' <;> rfl
    | _ => rfl
  | finite s m e hm =>
    cases b with
    | notANumber => rfl
    | infinity s' => cases s' <;> rfl
    | zero s' => cases s <;> rfl
    | finite s' m' e' hm' => cases s <;> cases s' <;> rfl

/-- Only what is not a number has no order. -/
private theorem unpackedCompare_eq_none_iff (a b : UnpackedFloat) :
    a.compare b = none ↔ a.isNaN = true ∨ b.isNaN = true := by
  rw [← Option.not_isSome_iff_eq_none, unpackedCompare_isSome]
  cases a.isNaN <;> cases b.isNaN <;> simp

/-! ### Doubles -/

private theorem float_lt_iff (x y : Float) :
    x < y ↔ x.toModel.unpack.compare y.toModel.unpack = some .lt := by
  -- both steps only open how the order of doubles is defined
  show decide (x.toModel < y.toModel) = true ↔ _
  rw [decide_eq_true_iff]
  show (x.toModel.unpack.compare y.toModel.unpack == some .lt) = true ↔ _
  rw [beq_iff_eq]

private theorem float_beq_iff (x y : Float) :
    (x == y) = true ↔ x.toModel.unpack.compare y.toModel.unpack = some .eq := by
  show (x.toModel.unpack.compare y.toModel.unpack == some .eq) = true ↔ _
  rw [beq_iff_eq]

/-- `compareFloats` is the order of the numbers that the doubles stand for. -/
theorem compareFloats_eq (x y : Float) :
    compareFloats x y = x.toModel.unpack.compare y.toModel.unpack := by
  have hgt : y < x ↔ x.toModel.unpack.compare y.toModel.unpack = some .gt := by
    rw [float_lt_iff, unpackedCompare_swap]
    cases x.toModel.unpack.compare y.toModel.unpack with
    | none => simp
    | some order => cases order <;> simp
  -- with each question put as one about the order, the answers can be read off
  simp only [compareFloats, float_lt_iff x y, hgt, float_beq_iff]
  cases x.toModel.unpack.compare y.toModel.unpack with
  | none => rfl
  | some order => cases order <;> rfl

/-- `compareFloats` has no order exactly when one of the doubles is not a number. -/
theorem compareFloats_eq_none_iff (x y : Float) :
    compareFloats x y = none ↔ x.isNaN = true ∨ y.isNaN = true := by
  rw [compareFloats_eq]
  exact unpackedCompare_eq_none_iff _ _

/-- `compareFloats` of exchanged doubles exchanges before and after. -/
theorem compareFloats_swap (x y : Float) :
    compareFloats y x = (compareFloats x y).map Ordering.swap := by
  rw [compareFloats_eq, compareFloats_eq]
  exact unpackedCompare_swap _ _

end RecordFilter
