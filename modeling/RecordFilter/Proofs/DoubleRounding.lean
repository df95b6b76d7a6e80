import Mathlib
import RecordFilter.Proofs.FloatOrder
/-!
# Rounding to doubles

A significand that is too long for a double is shifted to the right, with two bits that remember where
the rest of the division lies; they are enough to round it to the nearest whole number, a tie to the
even one (`RoundsTo`).  `rounded_roundWithAccuracy` says what rounding makes of a significand that is
long enough, and `unpack_pack` and `unpack_pack_of_overflow` what the bits of a double keep of it.
-/

namespace RecordFilter

open Float.Model (UnpackedFloat Format totalExponent)
open Float.Model.UnpackedFloat

/-! ### Rounding to whole numbers -/

/-- The whole number `q` is the nearest to `m / d`, and of two that are equally near the even one. -/
structure RoundsTo (m d q : Nat) : Prop where
  below : 2 * (q * d) ≤ 2 * m + d
  above : 2 * m ≤ 2 * (q * d) + d
  even_of_below : 2 * (q * d) = 2 * m + d → q % 2 = 0
  even_of_above : 2 * m = 2 * (q * d) + d → q % 2 = 0

namespace RoundsTo

variable {m d q a : Nat}

/-- `RoundsTo` does not pass a whole number below. -/
private theorem le_of_mul_le (h : RoundsTo m d q) (hd : 0 < d) (ha : a * d ≤ m) : a ≤ q := by
  refine Nat.le_of_not_lt fun hlt => ?_
  -- one less would lie a whole divisor below, which is more than half of it
  have hstep : (q + 1) * d ≤ a * d := Nat.mul_le_mul_right d hlt
  have habove := h.above
  rw [Nat.add_one_mul] at hstep
  omega

/-- `RoundsTo` does not pass a whole number above. -/
private theorem le_of_le_mul (h : RoundsTo m d q) (hd : 0 < d) (ha : m ≤ a * d) : q ≤ a := by
  refine Nat.le_of_not_lt fun hlt => ?_
  have hstep : (a + 1) * d ≤ q * d := Nat.mul_le_mul_right d hlt
  have hbelow := h.below
  rw [Nat.add_one_mul] at hstep
  omega

/-- `RoundsTo` takes a whole number to no other. -/
private theorem eq_of_mul (h : RoundsTo (a * d) d q) (hd : 0 < d) : q = a :=
  Nat.le_antisymm (h.le_of_le_mul hd (Nat.le_refl _)) (h.le_of_mul_le hd (Nat.le_refl _))

/-- `RoundsTo` takes a whole number to itself. -/
theorem mul_self (hd : 0 < d) : RoundsTo (a * d) d a := by
  constructor <;> omega

/-- `RoundsTo` is the same with a common factor of both numbers. -/
private theorem of_mul_right {c : Nat} (hc : 0 < c) (h : RoundsTo (m * c) (d * c) q) : RoundsTo m d q := by
  -- each bound is the factor times the bound without it
  have hleft : 2 * (q * (d * c)) = 2 * (q * d) * c := by ring
  have hright : 2 * (m * c) + d * c = (2 * m + d) * c := by ring
  have hleft' : 2 * (m * c) = 2 * m * c := by ring
  have hright' : 2 * (q * (d * c)) + d * c = (2 * (q * d) + d) * c := by ring
  obtain ⟨hbelow, habove, heven, heven'⟩ := h
  rw [hleft, hright] at hbelow heven
  rw [hleft', hright'] at habove heven'
  exact ⟨Nat.le_of_mul_le_mul_right hbelow hc, Nat.le_of_mul_le_mul_right habove hc,
    fun he => heven (congrArg (· * c) he), fun he => heven' (congrArg (· * c) he)⟩

end RoundsTo

/-! ### Shifted significands -/

/-- The extended significand stands for `m / d`: its two bits say whether there is a rest, and where the
rest lies from half of the divisor. -/
def StandsFor (em : ExtendedMantissa) (m d : Nat) : Prop :=
  ∃ rest, m = em.mantissa * d + rest ∧
    match em.roundBit, em.stickyBit with
    | false, false => rest = 0
    | false, true => 0 < rest ∧ 2 * rest < d
    | true, false => 2 * rest = d
    | true, true => d < 2 * rest ∧ rest < d

namespace StandsFor

variable {em : ExtendedMantissa} {m d : Nat}

/-- `StandsFor` doubles the divisor where the significand is shifted by one place. -/
private theorem shiftRightOne (h : StandsFor em m d) (hd : 0 < d) :
    StandsFor em.shiftRightOne m (2 * d) := by
  obtain ⟨q, round, sticky⟩ := em
  obtain ⟨rest, rfl, hrest⟩ := h
  -- the bit that is shifted out adds the old divisor to the rest
  have hsplit : q * d = q / 2 * (2 * d) + q % 2 * d := by
    calc q * d = (2 * (q / 2) + q % 2) * d := by rw [Nat.div_add_mod]
      _ = q / 2 * (2 * d) + q % 2 * d := by ring
  refine ⟨q % 2 * d + rest, ?_, ?_⟩
  · show q * d + rest = q / 2 * (2 * d) + (q % 2 * d + rest)
    omega
  · rcases Nat.mod_two_eq_zero_or_one q with hbit | hbit <;> cases round <;> cases sticky <;>
      simp only [ExtendedMantissa.shiftRightOne, hbit, Nat.zero_mul, Nat.one_mul, Nat.zero_add,
        bne_self_eq_false, Nat.reduceBNe, Bool.or_self, Bool.or_true, Bool.or_false] at hrest ⊢ <;>
      omega

/-- Shifting by `k` places divides by `2 ^ k`. -/
private theorem shiftRight (m k : Nat) :
    StandsFor (ExtendedMantissa.ofMantissaAndAccuracy m .exact >>> k) m (2 ^ k) := by
  show StandsFor (k.repeat ExtendedMantissa.shiftRightOne _) m (2 ^ k)
  induction k with
  | zero => exact ⟨0, by simp [Nat.repeat, ExtendedMantissa.ofMantissaAndAccuracy], rfl⟩
  | succ k ih =>
    rw [Nat.pow_succ, Nat.mul_comm]
    exact ih.shiftRightOne (Nat.two_pow_pos k)

/-- `StandsFor` has bits enough to round. -/
private theorem roundsTo (h : StandsFor em m d) (hd : 0 < d) : RoundsTo m d em.roundedMantissa := by
  -- by the two bits, which say on which side of the middle the rest lies
  obtain ⟨q, round, sticky⟩ := em
  obtain ⟨rest, rfl, hrest⟩ := h
  have hnext : (q + 1) * d = q * d + d := Nat.add_one_mul q d
  cases round <;> cases sticky <;>
    simp only [ExtendedMantissa.roundedMantissa, ExtendedMantissa.accuracy,
      Accuracy.roundToNearestEven] at hrest ⊢
  · constructor <;> omega
  · constructor <;> omega
  · -- a tie goes up from an odd number only
    rcases Nat.mod_two_eq_zero_or_one q with heven | hodd
    · rw [heven, Nat.add_zero]
      constructor <;> omega
    · rw [hodd]
      constructor <;> omega
  · constructor <;> omega

end StandsFor

/-! ### Rounded numbers -/

/-- The significand `m`, divided by `2 ^ k` and rounded to 53 bits, beside the exponent `e`.  If rounding
takes it to the next power of two, that is carried into the exponent. -/
inductive Rounded (s : Sign) (m k : Nat) (e : Int) : UnpackedFloat → Prop where
  | fits {q : Nat} {e' : Int} (h : RoundsTo m (2 ^ k) q) (hlow : 2 ^ 52 ≤ q) (hhigh : q < 2 ^ 53)
      (he : e' = e + k) (hq : 0 < q) : Rounded s m k e (.finite s q e' hq)
  | carries {e' : Int} (h : RoundsTo m (2 ^ k) (2 ^ 53)) (he : e' = e + k + 1)
      (hq : 0 < 2 ^ 52) : Rounded s m k e (.finite s (2 ^ 52) e' hq)

/-- `Rounded` is the same with a factor of two and one place more. -/
theorem Rounded.of_mul_two {s : Sign} {m k : Nat} {e : Int} {u : UnpackedFloat}
    (h : Rounded s (m * 2) (k + 1) (e - 1) u) : Rounded s m k e u := by
  cases h with
  | fits h hlow hhigh he _ =>
    exact .fits (h.of_mul_right Nat.two_pos) hlow hhigh (by omega) _
  | carries h he _ => exact .carries (h.of_mul_right Nat.two_pos) (by omega) _

/-- `Rounded` does not depend on the sign. -/
theorem Rounded.neg {m k : Nat} {e : Int} {u : UnpackedFloat} (h : Rounded .positive m k e u) :
    Rounded .negative m k e u.neg := by
  cases h with
  | fits h hlow hhigh he hq => exact .fits h hlow hhigh he hq
  | carries h he hq => exact .carries h he hq

/-- `targetExponent` leaves 53 bits, or fewer at the lower end of the range. -/
theorem targetExponent_eq (m : Nat) (e : Int) :
    Format.binary64.targetExponent (totalExponent m e) = max (m.log2 + e - 52) (-1074) := by
  show max ((m.log2 : Int) + 1 + e - 53) (-1074) = _
  omega

/-- `shiftToTargetExponent` leaves a significand of up to 53 bits as it is. -/
private theorem shiftToTargetExponent_of_lt {q : Nat} {e : Int} (hq : q < 2 ^ 53) (he : -1074 ≤ e) :
    shiftToTargetExponent .binary64 q e .exact = (⟨q, false, false⟩, e) := by
  -- there are no more bits than a double has
  have hlog : q.log2 ≤ 52 := by
    rcases Nat.eq_zero_or_pos q with rfl | hpos
    · simp
    · have := (Nat.log2_lt (Nat.ne_of_gt hpos)).mpr hq
      omega
  have hshift : (Format.binary64.targetExponent (totalExponent q e) - e).toNat = 0 := by
    rw [targetExponent_eq]
    omega
  simp only [shiftToTargetExponent, shiftToExponent, hshift, Int.natCast_zero, Int.add_zero]
  rfl

/-- `shiftToTargetExponent` shifts the significand that rounding carries to by one place. -/
private theorem shiftToTargetExponent_carry {e : Int} (he : -1074 ≤ e) :
    shiftToTargetExponent .binary64 (2 ^ 53) e .exact = (⟨2 ^ 52, false, false⟩, e + 1) := by
  have hshift : (Format.binary64.targetExponent (totalExponent (2 ^ 53) e) - e).toNat = 1 := by
    rw [targetExponent_eq, Nat.log2_two_pow]
    omega
  simp only [shiftToTargetExponent, shiftToExponent, hshift]
  rfl

/-- `roundWithAccuracy` gives the number after both shifts: the second one is there for the carry. -/
private theorem roundWithAccuracy_of_shifts {s : Sign} {m : Nat} {e e₁ e₂ : Int}
    {first second : ExtendedMantissa}
    (h₁ : shiftToTargetExponent .binary64 m e .exact = (first, e₁))
    (h₂ : shiftToTargetExponent .binary64 first.roundedMantissa e₁ .exact = (second, e₂))
    (hq : 0 < second.mantissa) :
    roundWithAccuracy .binary64 s m e .exact = .finite s second.mantissa e₂ hq := by
  unfold roundWithAccuracy
  simp only [h₁, h₂]
  exact dif_neg (Nat.ne_of_gt hq)

/-- `roundWithAccuracy` rounds a significand of at least 53 bits to 53 of them. -/
theorem rounded_roundWithAccuracy {s : Sign} {m k : Nat} {e : Int} (hm : m.log2 = 52 + k)
    (he : -1074 ≤ e + k) : Rounded s m k e (roundWithAccuracy .binary64 s m e .exact) := by
  have hne : m ≠ 0 := by
    rintro rfl
    rw [Nat.log2_zero] at hm
    omega
  have hpow : 0 < 2 ^ k := Nat.two_pow_pos k
  -- the significand has 53 bits before the ones that are shifted out
  have hlow : 2 ^ 52 * 2 ^ k ≤ m := by
    rw [← Nat.pow_add, ← hm]
    exact Nat.log2_self_le hne
  have hhigh : m ≤ 2 ^ 53 * 2 ^ k := by
    rw [← Nat.pow_add, show 53 + k = m.log2 + 1 by omega]
    exact Nat.le_of_lt Nat.lt_log2_self
  have htarget : (Format.binary64.targetExponent (totalExponent m e) - e).toNat = k := by
    rw [targetExponent_eq]
    omega
  have hfirst : shiftToTargetExponent .binary64 m e .exact =
      (ExtendedMantissa.ofMantissaAndAccuracy m .exact >>> k, e + k) := by
    simp only [shiftToTargetExponent, shiftToExponent, htarget]
  have hround := (StandsFor.shiftRight m k).roundsTo hpow
  -- rounding can reach the next power of two, and only then the second shift drops a bit
  have hqlow := hround.le_of_mul_le hpow hlow
  rcases Nat.lt_or_eq_of_le (hround.le_of_le_mul hpow hhigh) with hlt | hcarry
  · rw [roundWithAccuracy_of_shifts hfirst (shiftToTargetExponent_of_lt hlt he)
      (Nat.lt_of_lt_of_le (by decide) hqlow)]
    exact .fits hround hqlow hlt rfl _
  · have hsecond := shiftToTargetExponent_carry he
    rw [← hcarry] at hsecond
    rw [roundWithAccuracy_of_shifts hfirst hsecond (by decide)]
    rw [hcarry] at hround
    exact .carries hround rfl _

/-- Factors of two are counted by `Nat.log2`. -/
theorem log2_mul_two_pow {n : Nat} (hn : n ≠ 0) (k : Nat) : (n * 2 ^ k).log2 = n.log2 + k := by
  induction k with
  | zero => rw [Nat.pow_zero, Nat.mul_one, Nat.add_zero]
  | succ k ih =>
    have hne : n * 2 ^ k ≠ 0 := Nat.mul_ne_zero hn (Nat.ne_of_gt (Nat.two_pow_pos k))
    rw [Nat.pow_succ', Nat.mul_left_comm, Nat.log2_two_mul hne, ih, Nat.add_assoc]

/-- `roundWithAccuracy` takes a significand that is 53 bits before zeros to those bits. -/
theorem roundWithAccuracy_of_exact {s : Sign} {q k : Nat} {e : Int} (hlow : 2 ^ 52 ≤ q)
    (hhigh : q < 2 ^ 53) (he : -1074 ≤ e + k) (hq : 0 < q) :
    roundWithAccuracy .binary64 s (q * 2 ^ k) e .exact = .finite s q (e + k) hq := by
  have hlog : (q * 2 ^ k).log2 = 52 + k := by
    rw [log2_mul_two_pow (Nat.ne_of_gt hq), (Nat.log2_eq_iff (Nat.ne_of_gt hq)).mpr ⟨hlow, hhigh⟩]
  have hround : Rounded s (q * 2 ^ k) k e _ := rounded_roundWithAccuracy hlog he
  -- the rounded significand is the exact quotient, which is below the carry
  generalize roundWithAccuracy .binary64 s (q * 2 ^ k) e .exact = u at hround
  cases hround with
  | fits h _ _ he' =>
    obtain rfl := h.eq_of_mul (Nat.two_pow_pos k)
    rw [he']
  | carries h _ =>
    have := h.eq_of_mul (Nat.two_pow_pos k)
    omega

/-! ### The bits of a double -/

/-- A fraction with the leading bit before it. -/
theorem toNat_one_append (m : BitVec 52) : (1#1 ++ m).toNat = 2 ^ 52 + m.toNat := by
  rw [BitVec.toNat_append, ← Nat.shiftLeft_add_eq_or_of_lt m.isLt]
  rfl

/-- `unpack` reads the bits of a normal number back. -/
private theorem unpack_packComponents (s : Sign) {e : BitVec 11} (m : BitVec 52)
    (hzero : e ≠ 0#11) (hones : e ≠ -1#11) (hq : 0 < 2 ^ 52 + m.toNat) :
    UnpackedFloat.unpack .binary64 (packComponents .binary64 s e m) =
      .finite s (2 ^ 52 + m.toNat) (e.toNat - 1075) hq := by
  simp only [UnpackedFloat.unpack, unpackExponent_packComponents, unpackMantissa_packComponents,
    unpackSign_packComponents, Sign.ofBitVec_toBitVec, hzero, hones, if_false, toNat_one_append]
  rfl

/-- `unpack` after `pack` keeps a significand of 53 bits and an exponent in its range. -/
theorem unpack_pack {s : Sign} {q : Nat} {e : Int} (hlow : 2 ^ 52 ≤ q) (hhigh : q < 2 ^ 53)
    (he : -1074 ≤ e) (he' : e ≤ 971) (hq : 0 < q) :
    (Float.Model.pack (.finite s q e hq)).unpack = .finite s q e hq := by
  have hlog : q.log2 + 1 = 53 := by
    rw [(Nat.log2_eq_iff (Nat.ne_of_gt hq)).mpr ⟨hlow, hhigh⟩]
  have hfield : (BitVec.ofNat 11 (e + 1023 + 52).toNat).toNat = (e + 1023 + 52).toNat :=
    Nat.mod_eq_of_lt (by omega)
  -- the leading bit is not stored
  have hfraction : (BitVec.ofNat 52 q).toNat = q - 2 ^ 52 := by
    rw [BitVec.toNat_ofNat]
    omega
  -- the exponent field is neither the one of small numbers nor the one of infinity
  have hzero : BitVec.ofNat 11 (e + 1023 + 52).toNat ≠ 0#11 := by
    intro h
    have : (e + 1023 + 52).toNat = 0 := by rw [← hfield, h]; rfl
    omega
  have hones : BitVec.ofNat 11 (e + 1023 + 52).toNat ≠ -1#11 := by
    intro h
    have : (e + 1023 + 52).toNat = 2047 := by rw [← hfield, h]; rfl
    omega
  have hbits : UnpackedFloat.pack .binary64 (.finite s q e hq) =
      packComponents .binary64 s (BitVec.ofNat 11 (e + 1023 + 52).toNat) (BitVec.ofNat 52 q) := by
    show (if 2 ^ 11 ≤ (e + 1023 + 52).toNat + 1 then _ else if q.log2 + 1 = 53 then _ else _) = _
    rw [if_neg (by omega), if_pos hlog]
    rfl
  show UnpackedFloat.unpack .binary64 (UnpackedFloat.pack .binary64 _) = _
  rw [hbits, unpack_packComponents s _ hzero hones (by omega)]
  congr 1 <;> omega

/-- `unpack` after `pack` gives infinity for an exponent that is out of range. -/
theorem unpack_pack_of_overflow {s : Sign} {q : Nat} {e : Int} (he : 971 < e) (hq : 0 < q) :
    (Float.Model.pack (.finite s q e hq)).unpack = .infinity s := by
  have hbits : UnpackedFloat.pack .binary64 (.finite s q e hq) = packedInfinity .binary64 s := by
    show (if 2 ^ 11 ≤ (e + 1023 + 52).toNat + 1 then _ else _) = _
    exact if_pos (by omega)
  show UnpackedFloat.unpack .binary64 (UnpackedFloat.pack .binary64 _) = _
  rw [hbits]
  cases s <;> rfl

/-- `Rounded` numbers are kept by the bits of a double, unless they become infinite. -/
theorem Rounded.unpack_pack {s : Sign} {m k : Nat} {e : Int} {u : UnpackedFloat}
    (h : Rounded s m k e u) (he : -1074 ≤ e + k) :
    (Float.Model.pack u).unpack = u ∨
      (Float.Model.pack u).unpack = .infinity s ∧ 970 < e + k := by
  cases h with
  | @fits q e' _ hlow hhigh he' hq =>
    -- the largest exponent of a double is 971
    rcases Int.lt_or_le 971 e' with hover | hfit
    · exact .inr ⟨unpack_pack_of_overflow hover hq, by omega⟩
    · exact .inl (RecordFilter.unpack_pack hlow hhigh (by omega) hfit hq)
  | @carries e' _ he' hq =>
    rcases Int.lt_or_le 971 e' with hover | hfit
    · exact .inr ⟨unpack_pack_of_overflow hover hq, by omega⟩
    · exact .inl (RecordFilter.unpack_pack (by decide) (by decide) (by omega) hfit hq)

end RecordFilter
