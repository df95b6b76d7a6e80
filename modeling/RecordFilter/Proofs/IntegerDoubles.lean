import RecordFilter.Proofs.DoubleRounding
import RecordFilter.Decimal.Layout
/-!
# Integers as doubles

A natural number becomes the double that it is rounded to (`unpack_ofNat`).  Near `2 ^ 63`, the first
number above all 64-bit integers, several integers become `2 ^ 63` itself, and no other integer changes
sides (`compare_ofNat_edge`).  So as doubles a 64-bit integer comes before a number beyond the range,
except that they may become equal (`compareFloats_int64Float_ofNat`), and no such number is read back as
a 64-bit integer (`exactInt64?_ofNat`).
-/

namespace RecordFilter

open Float.Model (UnpackedFloat Format totalExponent)
open Float.Model.UnpackedFloat

/-! ### The parts of a double -/

/-- `unpackMantissa` reads the last 52 bits of a double. -/
private theorem toNat_unpackMantissa (b : BitVec 64) :
    (@unpackMantissa .binary64 b).toNat = b.toNat % 2 ^ 52 := by
  rw [unpackMantissa_def, BitVec.extractLsb'_toNat, Nat.shiftRight_zero]

/-- `unpackExponent` reads the 11 bits before the fraction. -/
private theorem toNat_unpackExponent (b : BitVec 64) :
    (@unpackExponent .binary64 b).toNat = b.toNat / 2 ^ 52 % 2 ^ 11 := by
  rw [unpackExponent_def, BitVec.extractLsb'_toNat, Nat.shiftRight_eq_div_pow]

/-- `unpackSign` reads the first bit. -/
private theorem toNat_unpackSign (b : BitVec 64) :
    (@unpackSign .binary64 b).toNat = b.toNat / 2 ^ 63 % 2 := by
  rw [unpackSign_def, BitVec.extractLsb'_toNat, Nat.shiftRight_eq_div_pow]
  rfl

open Decimal in
/-- `signBit` reads the bit that `unpackSign` does. -/
private theorem signBit_eq (x : Float) :
    signBit x = (Sign.ofBitVec (@unpackSign .binary64 x.toBits.toBitVec) == .negative) := by
  have hsign : (@unpackSign .binary64 x.toBits.toBitVec).toNat =
      x.toBits.toNat / 2 ^ 63 % 2 := toNat_unpackSign _
  have hbits : x.toBits.toNat < 2 ^ 64 := x.toBits.toBitVec.isLt
  show decide (2 ^ 63 ≤ x.toBits.toNat) = _
  rw [Sign.ofBitVec]
  split
  · rename_i h
    have hzero : x.toBits.toNat / 2 ^ 63 % 2 = 0 := by rw [← hsign, h]; rfl
    exact decide_eq_false (by omega)
  · rename_i h
    have hone : x.toBits.toNat / 2 ^ 63 % 2 ≠ 0 :=
      fun hzero => h (BitVec.eq_of_toNat_eq (hsign.trans hzero))
    exact decide_eq_true (by omega)

open Decimal in
/-- `Parts.ofFloat` has the significand and the exponent of the number that a double stands for, and
`signBit` its sign. -/
private theorem parts_of_unpack {x : Float} {s : Sign} {q : Nat} {e : Int} {hq : 0 < q}
    (h : x.toModel.unpack = .finite s q e hq) :
    (Parts.ofFloat x).significand = q ∧ (Parts.ofFloat x).exponent = e ∧
      signBit x = (s == .negative) := by
  have hfraction : (@unpackMantissa .binary64 x.toBits.toBitVec).toNat =
      x.toBits.toNat % 2 ^ 63 % 2 ^ 52 := by
    rw [toNat_unpackMantissa]
    show x.toBits.toNat % 2 ^ 52 = _
    omega
  have hfield : (@unpackExponent .binary64 x.toBits.toBitVec).toNat =
      x.toBits.toNat % 2 ^ 63 / 2 ^ 52 := by
    rw [toNat_unpackExponent]
    show x.toBits.toNat / 2 ^ 52 % 2 ^ 11 = _
    omega
  have hsign := signBit_eq x
  have hbits : x.toModel.unpack = UnpackedFloat.unpack .binary64 x.toBits.toBitVec := rfl
  rw [hbits, UnpackedFloat.unpack] at h
  dsimp only at h
  split at h
  · -- infinite, or not a number
    split at h <;> exact nomatch h
  · split at h
    · -- zero, or a fraction without a leading bit
      rename_i hzero
      split at h
      · exact nomatch h
      · obtain ⟨rfl, rfl, rfl⟩ := UnpackedFloat.finite.inj h
        have hfieldZero : x.toBits.toNat % 2 ^ 63 / 2 ^ 52 = 0 := by rw [← hfield, hzero]; rfl
        have hparts : Parts.ofFloat x = ⟨x.toBits.toNat % 2 ^ 63 % 2 ^ 52, -1074, false⟩ :=
          if_pos hfieldZero
        rw [hparts, hzero]
        exact ⟨hfraction.symm, rfl, hsign⟩
    · -- a fraction with a leading bit
      rename_i hzero
      obtain ⟨rfl, rfl, rfl⟩ := UnpackedFloat.finite.inj h
      have hfieldZero : ¬ x.toBits.toNat % 2 ^ 63 / 2 ^ 52 = 0 :=
        fun h0 => hzero (BitVec.eq_of_toNat_eq (hfield.trans h0))
      have hparts : Parts.ofFloat x = ⟨2 ^ 52 + x.toBits.toNat % 2 ^ 63 % 2 ^ 52,
          Int.ofNat (x.toBits.toNat % 2 ^ 63 / 2 ^ 52) - 1075, _⟩ := if_neg hfieldZero
      rw [hparts, toNat_one_append, hfraction, hfield]
      exact ⟨rfl, rfl, hsign⟩

/-! ### Natural numbers -/

section

variable {n : Nat}

/-- A natural number of up to 53 bits, shifted to exactly 53 of them. -/
private theorem shifted_bounds (hn : 0 < n) (hlt : n < 2 ^ 53) :
    n.log2 ≤ 52 ∧ 2 ^ 52 ≤ n * 2 ^ (52 - n.log2) ∧ n * 2 ^ (52 - n.log2) < 2 ^ 53 := by
  have hne : n ≠ 0 := Nat.ne_of_gt hn
  have hlog : n.log2 ≤ 52 := Nat.le_of_lt_succ ((Nat.log2_lt hne).mpr hlt)
  have hq : n * 2 ^ (52 - n.log2) ≠ 0 := Nat.mul_ne_zero hne (Nat.ne_of_gt (Nat.two_pow_pos _))
  have hq52 : (n * 2 ^ (52 - n.log2)).log2 = 52 := by
    rw [log2_mul_two_pow hne]
    omega
  exact ⟨hlog, (Nat.log2_eq_iff hq).mp hq52⟩

/-- `UInt64.toFloat` of a word of up to 53 bits is the number itself. -/
private theorem unpack_toFloat (hn : 0 < n) (hlt : n < 2 ^ 53) (hq : 0 < n * 2 ^ (52 - n.log2)) :
    n.toUInt64.toFloat.toModel.unpack =
      .finite .positive (n * 2 ^ (52 - n.log2)) (n.log2 - 52) hq := by
  obtain ⟨hlog, hlow, hhigh⟩ := shifted_bounds hn hlt
  have hword : n.toUInt64.toNat = n := Nat.mod_eq_of_lt (by omega)
  have hpositive : compare (n : Int) 0 = .gt := Int.compare_eq_gt.mpr (by omega)
  have hshift : (0 - Format.binary64.targetExponent (totalExponent n 0)).toNat = 52 - n.log2 := by
    rw [targetExponent_eq]
    omega
  have hexponent : (0 : Int) - ((52 - n.log2 : Nat) : Int) = n.log2 - 52 := by omega
  -- the number fits into 53 bits, so that rounding changes nothing
  have hround : UnpackedFloat.round .binary64 .positive n 0 =
      .finite .positive (n * 2 ^ (52 - n.log2)) (n.log2 - 52) hq := by
    have hexact : roundWithAccuracy .binary64 .positive (n * 2 ^ (52 - n.log2) * 2 ^ 0)
        (n.log2 - 52) .exact = _ := roundWithAccuracy_of_exact hlow hhigh (by omega) hq
    simp only [UnpackedFloat.round, decreaseExponent, hshift, Nat.shiftLeft_eq, hexponent]
    simpa using hexact
  have hmodel : n.toUInt64.toFloat.toModel = .pack (UnpackedFloat.round .binary64 .positive n 0) := by
    show Float.Model.pack (UnpackedFloat.normalize .binary64 (n.toUInt64.toNat : Int) 0 .positive) = _
    rw [hword, UnpackedFloat.normalize, hpositive]
    rfl
  rw [hmodel, hround, unpack_pack hlow hhigh (by omega) (by omega)]

/-- A natural number of up to 53 bits is read as a word and multiplied by one. -/
private theorem exists_rounded_of_lt (hn : 0 < n) (hlt : n < 2 ^ 53) :
    ∃ u, Rounded .positive (n * 2 ^ 52) n.log2 (-52) u ∧ (Float.ofNat n).toModel = .pack u := by
  obtain ⟨hlog, hlow, hhigh⟩ := shifted_bounds hn hlt
  have hq : 0 < n * 2 ^ (52 - n.log2) := Nat.lt_of_lt_of_le (by decide) hlow
  have hone : (Float.ofBits 0x3FF0000000000000).toModel.unpack =
      .finite .positive (2 ^ 52) (-52) (by decide) := rfl
  -- literals of up to 53 bits are made by a multiplication with a power of ten, which is one here
  have hmul : Float.ofNat n = n.toUInt64.toFloat * Float.ofBits 0x3FF0000000000000 := by
    show Float.ofScientific n false 0 = _
    rw [Float.ofScientific, dif_pos ⟨hlt, by decide⟩]
    rfl
  have hmodel : (Float.ofNat n).toModel =
      .pack (roundWithAccuracy .binary64 .positive (n * 2 ^ (52 - n.log2) * 2 ^ 52)
        (n.log2 - 52 + -52) .exact) := by
    rw [hmul]
    show Float.Model.pack (UnpackedFloat.mul .binary64 _ _) = _
    rw [unpack_toFloat hn hlt hq, hone]
    rfl
  rw [roundWithAccuracy_of_exact hlow hhigh (by omega) hq] at hmodel
  have hscaled : n * 2 ^ 52 = n * 2 ^ (52 - n.log2) * 2 ^ n.log2 := by
    rw [Nat.mul_assoc, ← Nat.pow_add, Nat.sub_add_cancel hlog]
  refine ⟨_, ?_, hmodel⟩
  rw [hscaled]
  exact .fits (.mul_self (Nat.two_pow_pos _)) hlow hhigh (by omega) hq

/-- A longer natural number is rounded with 53 zeros after it. -/
private theorem exists_rounded_of_ge (hge : 2 ^ 53 ≤ n) :
    ∃ u, Rounded .positive (n * 2 ^ 52) n.log2 (-52) u ∧ (Float.ofNat n).toModel = .pack u := by
  have hne : n ≠ 0 := by omega
  -- longer literals are shifted by 53 bits first, which is one bit more than here
  have hscaled : n <<< 53 * 10 ^ 0 = n * 2 ^ 52 * 2 := by
    rw [Nat.shiftLeft_eq]
    omega
  have hlog : (n * 2 ^ 52 * 2).log2 = 52 + (n.log2 + 1) := by
    rw [Nat.mul_assoc, ← Nat.pow_succ, log2_mul_two_pow hne]
    omega
  have hmodel : (Float.ofNat n).toModel =
      .pack (roundWithAccuracy .binary64 .positive (n * 2 ^ 52 * 2) (-52 - 1) .exact) := by
    show (Float.ofScientific n false 0).toModel = _
    rw [Float.ofScientific, dif_neg (by omega)]
    show Float.Model.pack (UnpackedFloat.ofScientific .binary64 n 0) = _
    rw [UnpackedFloat.ofScientific, dif_neg hne, if_neg (by decide), if_neg, if_pos (by decide),
      ← hscaled]
    · rfl
    · show ¬ (0 : Int) < -(2048 + n.log2)
      omega
  exact ⟨_, .of_mul_two (rounded_roundWithAccuracy hlog (by omega)), hmodel⟩

/-- `Float.ofNat` is the double that a natural number is rounded to, or infinite. -/
theorem unpack_ofNat (hn : 0 < n) :
    ∃ u, Rounded .positive (n * 2 ^ 52) n.log2 (-52) u ∧
      ((Float.ofNat n).toModel.unpack = u ∨
        (Float.ofNat n).toModel.unpack = .infinity .positive ∧ 1022 < n.log2) := by
  obtain ⟨u, hround, hmodel⟩ :
      ∃ u, Rounded .positive (n * 2 ^ 52) n.log2 (-52) u ∧ (Float.ofNat n).toModel = .pack u := by
    rcases Nat.lt_or_ge n (2 ^ 53) with hlt | hge
    · exact exists_rounded_of_lt hn hlt
    · exact exists_rounded_of_ge hge
  refine ⟨u, hround, ?_⟩
  rw [hmodel]
  refine (hround.unpack_pack (by omega)).imp_right fun ⟨hu, hover⟩ => ⟨hu, ?_⟩
  omega

/-! ### Near `2 ^ 63` -/

/-- The double `2 ^ 63`, the first above all 64-bit integers. -/
def int64Edge : UnpackedFloat := .finite .positive (2 ^ 52) 11 (by decide)

/-- `compare` with `int64Edge` looks at the exponent first, which is 11 there, and then at the
significand. -/
private theorem compare_edge {q : Nat} {e : Int} (hlow : 2 ^ 52 ≤ q) (hq : 0 < q) :
    (UnpackedFloat.finite .positive q e hq).compare int64Edge =
      some (if e < 11 then .lt else if e = 11 ∧ q = 2 ^ 52 then .eq else .gt) := by
  show some ((compare e 11).then (compare q (2 ^ 52))) = _
  congr 1
  -- the significand decides only where the exponents agree
  rcases Int.lt_trichotomy e 11 with hlt | rfl | hgt
  · rw [Int.compare_eq_lt.mpr hlt, if_pos hlt]
    rfl
  · rcases Nat.lt_or_eq_of_le hlow with hlt | rfl
    · rw [Nat.compare_eq_gt.mpr hlt, if_neg (by decide), if_neg (by omega)]
      rfl
    · rfl
  · rw [Int.compare_eq_gt.mpr hgt, if_neg (by omega), if_neg (by omega)]
    rfl

/-- The double of a natural number is on the side of `2 ^ 63` on which the number is, unless the number
is near enough to become `2 ^ 63` itself. -/
theorem compare_ofNat_edge (n : Nat) :
    (Float.ofNat n).toModel.unpack.compare int64Edge =
      some (if n < 2 ^ 63 - 2 ^ 9 then .lt else if n ≤ 2 ^ 63 + 2 ^ 10 then .eq else .gt) := by
  rcases Nat.eq_zero_or_pos n with rfl | hn
  · rfl
  have hpow (j : Nat) : 2 ^ j ≤ n ↔ j ≤ n.log2 := (Nat.le_log2 (Nat.ne_of_gt hn)).symm
  have hpow62 := hpow 62
  have hpow63 := hpow 63
  have hpow64 := hpow 64
  obtain ⟨u, hround, hu | ⟨hu, hlarge⟩⟩ := unpack_ofNat hn
  · rw [hu]
    -- the significand decides only between `2 ^ 62` and `2 ^ 64`
    cases hround with
    | @fits q _ h hlow hhigh he _ =>
      have h62 (hk : n.log2 = 62) : n < 2 ^ 63 - 2 ^ 9 := by
        rw [hk] at h
        have habove := h.above
        have heven := h.even_of_above
        omega
      have h63 (hk : n.log2 = 63) : q = 2 ^ 52 ↔ n ≤ 2 ^ 63 + 2 ^ 10 := by
        rw [hk] at h
        obtain ⟨hbelow, habove, heven, heven'⟩ := h
        omega
      rw [compare_edge hlow]
      split_ifs <;> first | rfl | omega
    | carries h he =>
      have h62 (hk : n.log2 = 62) : 2 ^ 63 - 2 ^ 9 ≤ n := by
        rw [hk] at h
        have hbelow := h.below
        omega
      have h63 (hk : n.log2 = 63) : 2 ^ 63 + 2 ^ 10 < n := by
        rw [hk] at h
        have hbelow := h.below
        omega
      rw [compare_edge (by decide)]
      split_ifs <;> first | rfl | omega
  · rw [hu, if_neg (by omega), if_neg (by omega)]
    rfl

/-- The double of a negative integer is before `2 ^ 63`. -/
private theorem compare_neg_ofNat_edge (hn : 0 < n) :
    (-Float.ofNat n).toModel.unpack.compare int64Edge = some .lt := by
  obtain ⟨u, hround, hu⟩ := unpack_ofNat hn
  show (Float.Model.pack (Float.ofNat n).toModel.unpack.neg).unpack.compare int64Edge = _
  -- rounded or infinite, the number is negative
  rcases hu with hu | ⟨hu, -⟩
  · rw [hu]
    rcases hround.neg.unpack_pack (by omega) with hkept | ⟨hinf, -⟩
    · rw [hkept]
      cases hround <;> rfl
    · rw [hinf]
      rfl
  · rw [hu]
    rfl

/-- Magnitudes with a leading bit are ordered by their exponents, and then by their significands. -/
private theorem magnitude_lt_iff {q q' : Nat} {e e' : Int} :
    (compare e e').then (compare q q') = .lt ↔ e < e' ∨ e = e' ∧ q < q' := by
  rw [Ordering.then_eq_lt, Int.compare_eq_lt, Int.compare_eq_eq, Nat.compare_eq_lt]

/-- Only `2 ^ 63` is equal to it. -/
private theorem eq_edge_of_compare {u : UnpackedFloat} (h : u.compare int64Edge = some .eq) :
    u = int64Edge := by
  cases u with
  | notANumber => exact nomatch h
  | infinity s => cases s <;> exact nomatch h
  | zero s => cases s <;> exact nomatch h
  | finite s q e hq =>
    cases s with
    | negative => exact nomatch h
    | positive =>
      have hparts : (compare e 11).then (compare q (2 ^ 52)) = .eq := Option.some.inj h
      rw [Ordering.then_eq_eq, Int.compare_eq_eq, Nat.compare_eq_eq] at hparts
      obtain ⟨rfl, rfl⟩ := hparts
      rfl

/-- The numbers after `2 ^ 63`. -/
private theorem cases_of_compare_gt {u : UnpackedFloat} (h : u.compare int64Edge = some .gt) :
    u = .infinity .positive ∨ ∃ q e hq, u = .finite .positive q e hq ∧
      (11 < e ∨ 11 = e ∧ 2 ^ 52 < q) := by
  cases u with
  | notANumber => exact nomatch h
  | zero s => cases s <;> exact nomatch h
  | infinity s =>
    cases s with
    | negative => exact nomatch h
    | positive => exact .inl rfl
  | finite s q e hq =>
    cases s with
    | negative => exact nomatch h
    | positive =>
      rw [unpackedCompare_swap, Option.map_eq_some_iff] at h
      obtain ⟨order, horder, hswap⟩ := h
      rw [Ordering.swap_eq_gt] at hswap
      have hparts : (compare 11 e).then (compare (2 ^ 52) q) = order := Option.some.inj horder
      rw [hswap, magnitude_lt_iff] at hparts
      exact .inr ⟨q, e, hq, rfl, hparts⟩

/-- A number before `2 ^ 63` is before one after it. -/
private theorem compare_of_edge_between {a b : UnpackedFloat} (ha : a.compare int64Edge = some .lt)
    (hb : b.compare int64Edge = some .gt) : a.compare b = some .lt := by
  -- by what may come after the edge, and then by what may come before it
  rcases cases_of_compare_gt hb with rfl | ⟨q', e', hq', rfl, hafter⟩
  · cases a with
    | notANumber => exact nomatch ha
    | infinity s => cases s <;> first | rfl | exact nomatch ha
    | zero s => cases s <;> rfl
    | finite s q e hq => cases s <;> rfl
  · cases a with
    | notANumber => exact nomatch ha
    | infinity s => cases s <;> first | rfl | exact nomatch ha
    | zero s => cases s <;> rfl
    | finite s q e hq =>
      cases s with
      | negative => rfl
      | positive =>
        have hbefore : (compare e 11).then (compare q (2 ^ 52)) = .lt := Option.some.inj ha
        rw [magnitude_lt_iff] at hbefore
        exact congrArg some (magnitude_lt_iff.mpr (by omega))

/-- The double of a 64-bit integer is before `2 ^ 63`, or is `2 ^ 63` itself. -/
private theorem compare_int64Float_edge (i : Int64) :
    (int64Float i).toModel.unpack.compare int64Edge =
      some (if i.toInt < 2 ^ 63 - 2 ^ 9 then .lt else .eq) := by
  have hmax : i.toInt < 2 ^ 63 := i.toInt_lt
  rw [int64Float]
  generalize i.toInt = k at hmax ⊢
  -- a natural number, which is below the edge, or a negative one
  cases k with
  | ofNat n =>
    have hlt : n < 2 ^ 63 := Int.ofNat_lt.mp hmax
    have hedge := compare_ofNat_edge n
    rw [if_pos (show n ≤ 2 ^ 63 + 2 ^ 10 by omega)] at hedge
    show (Float.ofNat n).toModel.unpack.compare int64Edge =
      some (if (n : Int) < 2 ^ 63 - 2 ^ 9 then .lt else .eq)
    rw [hedge]
    split_ifs <;> first | rfl | omega
  | negSucc n =>
    rw [if_pos (by omega)]
    exact compare_neg_ofNat_edge (Nat.succ_pos n)

/-- As doubles, a 64-bit integer comes before a number beyond the range of 64-bit integers, unless both
are near enough to `2 ^ 63` to become `2 ^ 63`. -/
theorem compareFloats_int64Float_ofNat (i : Int64) (hn : 2 ^ 63 ≤ n) :
    compareFloats (int64Float i) (Float.ofNat n) =
      some (if 2 ^ 63 - 2 ^ 9 ≤ i.toInt ∧ n ≤ 2 ^ 63 + 2 ^ 10 then .eq else .lt) := by
  have hi := compare_int64Float_edge i
  have hnEdge := compare_ofNat_edge n
  rw [if_neg (by omega)] at hnEdge
  rw [compareFloats_eq]
  -- a number that became `2 ^ 63` compares as the edge does
  rcases lt_or_ge i.toInt (2 ^ 63 - 2 ^ 9) with hilt | hige
  · rw [if_pos hilt] at hi
    rw [if_neg (by omega)]
    split_ifs at hnEdge
    · rwa [eq_edge_of_compare hnEdge]
    · exact compare_of_edge_between hi hnEdge
  · rw [if_neg (by omega)] at hi
    rw [eq_edge_of_compare hi, unpackedCompare_swap, hnEdge]
    split_ifs <;> first | rfl | omega

/-! ### Back to integers -/

open Decimal

/-- `wholeNumber?` finds a whole number in a double with a large exponent. -/
private theorem wholeNumber?_of_unpack {x : Float} {s : Sign} {q : Nat} {e : Int} {hq : 0 < q}
    (h : x.toModel.unpack = .finite s q e hq) (he : 0 ≤ e) :
    wholeNumber? x = some (s.apply (q * 2 ^ e.toNat : Nat)) := by
  obtain ⟨hsignificand, hexponent, hsign⟩ := parts_of_unpack h
  have hnan : x.isNaN = false := congrArg UnpackedFloat.isNaN h
  have hinf : x.isInf = false := congrArg UnpackedFloat.isInf h
  have hnegative : (-e).toNat = 0 := by omega
  simp only [wholeNumber?, hnan, hinf, hsignificand, hexponent, hsign, hnegative, Nat.pow_eq,
    Nat.pow_zero, Nat.mod_one, Nat.div_one, Bool.or_self, Bool.false_eq_true, if_false, if_true]
  cases s <;> rfl

/-- A double from `2 ^ 63` on is no 64-bit integer. -/
private theorem exactInt64?_of_unpack {x : Float} {q : Nat} {e : Int} {hq : 0 < q}
    (h : x.toModel.unpack = .finite .positive q e hq) (hlow : 2 ^ 52 ≤ q) (he : 11 ≤ e) :
    exactInt64? x = none := by
  have hlarge : 2 ^ 52 * 2 ^ 11 ≤ q * 2 ^ e.toNat :=
    Nat.mul_le_mul hlow (Nat.pow_le_pow_right (by decide) (by omega))
  rw [exactInt64?, wholeNumber?_of_unpack h (by omega)]
  refine if_neg fun ⟨_, hmax⟩ => ?_
  have hmax : ((q * 2 ^ e.toNat : Nat) : Int) ≤ 2 ^ 63 - 1 := hmax
  omega

/-- `exactInt64?` does not read a number beyond the range of 64-bit integers back as one of them. -/
theorem exactInt64?_ofNat (hn : 2 ^ 63 ≤ n) : exactInt64? (Float.ofNat n) = none := by
  have hpos : 0 < n := by omega
  have hlog : 63 ≤ n.log2 := (Nat.le_log2 (Nat.ne_of_gt hpos)).mpr hn
  obtain ⟨u, hround, hu | ⟨hu, -⟩⟩ := unpack_ofNat hpos
  · -- rounded, the number still has an exponent from 11 on
    cases hround with
    | fits _ hlow _ he => exact exactInt64?_of_unpack hu hlow (by omega)
    | carries _ he => exact exactInt64?_of_unpack hu (Nat.le_refl _) (by omega)
  · have hinf : (Float.ofNat n).isInf = true := congrArg UnpackedFloat.isInf hu
    simp [exactInt64?, wholeNumber?, hinf]

end

end RecordFilter
