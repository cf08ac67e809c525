import ScriptBridge.Proofs.ExactDoubles
import ScriptBridge.Script.Numeral

/-!
Integers of 64 bits as doubles.

A whole number with more than 53 binary digits is no double as a rule, and is rounded to the nearest one; of two that
are as near it is the one whose last digit is zero:

    floatOfInt i  =  d · 2 ^ e      with  |d · 2 ^ e - i|  least among all numbers of 53 digits

Design.  The conversion shifts digits out until 53 are left and keeps two bits of what is lost, the first digit and
whether there was anything after it.  That is enough to say which multiple of the step is nearest (`RoundsTo`), in whole
numbers.  A number of 53 digits that is no such multiple has a smaller exponent, so it lies below every number that had
to be shifted so far, and is farther off (`Dyadic.multiple_or_small`).
-/
namespace ScriptBridge.Number

open Float.Model Float.Model.UnpackedFloat

/-! ### Shifting digits out -/

theorem repeat_add {α : Type} (f : α → α) (m n : Nat) (a : α) : (m + n).repeat f a = m.repeat f (n.repeat f a) := by
  induction m with
  | zero => rw [Nat.zero_add]; rfl
  | succ m ih => rw [Nat.succ_add, Nat.repeat, ih, Nat.repeat]

/-- What is shifted out leaves its first digit, and whether anything else was in it. -/
theorem shiftRight_succ (m k : Nat) :
    (⟨m, false, false⟩ : ExtendedMantissa) >>> (k + 1)
      = ⟨m / 2 ^ (k + 1), m / 2 ^ k % 2 != 0, m % 2 ^ k != 0⟩ := by
  show (k + 1).repeat ExtendedMantissa.shiftRightOne ⟨m, false, false⟩ = _
  induction k with
  | zero => simp [Nat.repeat, ExtendedMantissa.shiftRightOne, Nat.mod_one]
  | succ k ih =>
    rw [Nat.repeat, ih, ExtendedMantissa.shiftRightOne]
    have hdiv : m / 2 ^ (k + 1) / 2 = m / 2 ^ (k + 1 + 1) := by
      rw [Nat.div_div_eq_div_mul, ← Nat.pow_succ]
    have hrest : m % 2 ^ (k + 1) = m % 2 ^ k + 2 ^ k * (m / 2 ^ k % 2) := by
      rw [Nat.pow_succ, Nat.mod_mul]
    have hsticky : (m / 2 ^ k % 2 != 0 || m % 2 ^ k != 0) = (m % 2 ^ (k + 1) != 0) := by
      rw [hrest, Bool.eq_iff_iff]
      simp only [Bool.or_eq_true, bne_iff_ne, ne_eq, Nat.add_eq_zero_iff, Nat.mul_eq_zero, Nat.pow_eq_zero]
      omega
    simp only [hdiv, hsticky]

/-! ### The nearest multiple -/

/-- `r` times `2 ^ k` is nearest to `m`, and `r` is even if another multiple is as near. -/
structure RoundsTo (k m r : Nat) : Prop where
  below : 2 * (r * 2 ^ k) ≤ 2 * m + 2 ^ k
  above : 2 * m ≤ 2 * (r * 2 ^ k) + 2 ^ k
  tie : 2 * (r * 2 ^ k) = 2 * m + 2 ^ k ∨ 2 * m = 2 * (r * 2 ^ k) + 2 ^ k → r % 2 = 0

theorem roundsTo_roundedMantissa (m k : Nat) :
    RoundsTo (k + 1) m (((⟨m, false, false⟩ : ExtendedMantissa) >>> (k + 1)).roundedMantissa) := by
  rw [shiftRight_succ]
  have hpow : 2 ^ (k + 1) = 2 * 2 ^ k := by rw [Nat.pow_succ, Nat.mul_comm]
  have hq : m = m / 2 ^ (k + 1) * 2 ^ (k + 1) + m % 2 ^ (k + 1) := by
    rw [Nat.mul_comm]
    exact (Nat.div_add_mod m _).symm
  have hrest : m % 2 ^ (k + 1) = m % 2 ^ k + 2 ^ k * (m / 2 ^ k % 2) := by
    rw [Nat.pow_succ, Nat.mod_mul]
  have hlow : m % 2 ^ k < 2 ^ k := Nat.mod_lt _ (Nat.two_pow_pos k)
  have hsucc : (m / 2 ^ (k + 1) + 1) * 2 ^ (k + 1) = m / 2 ^ (k + 1) * 2 ^ (k + 1) + 2 ^ (k + 1) := Nat.succ_mul _ _
  generalize m / 2 ^ (k + 1) = q at *
  generalize m % 2 ^ k = low at *
  rcases Nat.mod_two_eq_zero_or_one (m / 2 ^ k) with hbit | hbit <;> rw [hbit] at hrest ⊢ <;>
    by_cases h0 : low = 0
  · -- nothing was shifted out
    rw [h0]
    have hr : (⟨q, 0 != 0, 0 != 0⟩ : ExtendedMantissa).roundedMantissa = q := rfl
    rw [hr]
    constructor <;> omega
  · have hr : (⟨q, 0 != 0, low != 0⟩ : ExtendedMantissa).roundedMantissa = q := by
      rw [bne_iff_ne.mpr h0]
      rfl
    rw [hr]
    constructor <;> omega
  · -- exactly half
    rw [h0]
    have hr : (⟨q, 1 != 0, 0 != 0⟩ : ExtendedMantissa).roundedMantissa = q + q % 2 := rfl
    rw [hr]
    rcases Nat.mod_two_eq_zero_or_one q with heven | hodd
    · rw [heven]
      show RoundsTo (k + 1) m q
      constructor <;> omega
    · rw [hodd]
      constructor <;> omega
  · have hr : (⟨q, 1 != 0, low != 0⟩ : ExtendedMantissa).roundedMantissa = q + 1 := by
      rw [bne_iff_ne.mpr h0]
      rfl
    rw [hr]
    constructor <;> omega

/-! ### Whole numbers with more than 53 digits -/

/-- A carry through all digits moves the exponent on. -/
theorem shiftToTargetExponent_carried (k : Nat) :
    shiftToTargetExponent Format.binary64 (2 ^ 53) ((k + 1 : Nat) : Int) .exact
      = (⟨2 ^ 52, false, false⟩, ((k + 2 : Nat) : Int)) := by
  have ht : Format.binary64.targetExponent (totalExponent (2 ^ 53) ((k + 1 : Nat) : Int)) = ((k + 2 : Nat) : Int) := by
    refine targetExponent_eq ?_ (by omega)
    rw [totalExponent, Nat.log2_two_pow]
    omega
  rw [shiftToTargetExponent, ht, shiftToExponent]
  have hshift : (((k + 2 : Nat) : Int) - ((k + 1 : Nat) : Int)).toNat = 1 := by omega
  rw [hshift]
  refine Prod.ext (shiftRight_zeros (2 ^ 52) 1 :) (by show ((k + 1 : Nat) : Int) + ((1 : Nat) : Int) = _; omega)

section Wide

variable {m k : Nat} (hlow : 2 ^ (53 + k) ≤ m) (hhigh : m < 2 ^ (54 + k))

include hlow hhigh

/-- The first 53 digits are kept, and those that the conversion appends go without a trace. -/
theorem shiftToTargetExponent_wide :
    shiftToTargetExponent Format.binary64 (m * 2 ^ 53) (-53) .exact
      = ((⟨m, false, false⟩ : ExtendedMantissa) >>> (k + 1), ((k + 1 : Nat) : Int)) := by
  have hlog : (m * 2 ^ 53).log2 = 106 + k := by
    refine log2_eq ?_ ?_
    · rw [show 106 + k = 53 + k + 53 by omega, Nat.pow_add]
      exact Nat.mul_le_mul_right _ hlow
    · rw [show 106 + k + 1 = 54 + k + 53 by omega, Nat.pow_add]
      exact Nat.mul_lt_mul_of_pos_right hhigh (Nat.two_pow_pos _)
  have ht : Format.binary64.targetExponent (totalExponent (m * 2 ^ 53) (-53)) = ((k + 1 : Nat) : Int) := by
    refine targetExponent_eq ?_ (by omega)
    rw [totalExponent, hlog]
    omega
  rw [shiftToTargetExponent, ht, shiftToExponent]
  have hshift : (((k + 1 : Nat) : Int) - -53).toNat = k + 1 + 53 := by omega
  rw [hshift]
  refine Prod.ext ?_ (by show (-53 : Int) + ((k + 1 + 53 : Nat) : Int) = _; omega)
  show (k + 1 + 53).repeat ExtendedMantissa.shiftRightOne ⟨m * 2 ^ 53, false, false⟩ = _
  rw [repeat_add]
  exact congrArg _ (shiftRight_zeros m 53)

/-- The digits that are kept are 53, or one more when rounding carries through all of them. -/
theorem RoundsTo.bounds {r : Nat} (hr : RoundsTo (k + 1) m r) : 2 ^ 52 ≤ r ∧ r ≤ 2 ^ 53 := by
  have hpos := Nat.two_pow_pos (k + 1)
  have h53 : 2 ^ (53 + k) = 2 ^ 52 * 2 ^ (k + 1) := by
    rw [← Nat.pow_add]
    congr 1
    omega
  have h54 : 2 ^ (54 + k) = 2 ^ 53 * 2 ^ (k + 1) := by
    rw [← Nat.pow_add]
    congr 1
    omega
  obtain ⟨hbelow, habove, -⟩ := hr
  rw [h53] at hlow
  rw [h54] at hhigh
  generalize 2 ^ (k + 1) = d at *
  constructor
  · by_contra h
    have := Nat.mul_le_mul_right d (show r + 1 ≤ 2 ^ 52 by omega)
    rw [Nat.succ_mul] at this
    omega
  · by_contra h
    have := Nat.mul_le_mul_right d (show 2 ^ 53 + 1 ≤ r by omega)
    rw [Nat.succ_mul] at this
    omega

/-- The number rounded to 53 digits, with an exponent that takes the shift back. -/
theorem roundWithAccuracy_wide (s : Sign) :
    ∃ r, RoundsTo (k + 1) m r ∧ ∃ (d e : Nat) (hd : 0 < d), 2 ^ 52 ≤ d ∧ d < 2 ^ 53 ∧ e ≤ k + 2 ∧
      d * 2 ^ e = r * 2 ^ (k + 1) ∧ (r % 2 = 0 → d % 2 = 0) ∧
      roundWithAccuracy Format.binary64 s (m * 2 ^ 53) (-53) .exact = .finite s d e hd := by
  have hr := roundsTo_roundedMantissa m k
  obtain ⟨hlow', hhigh'⟩ := hr.bounds hlow hhigh
  have hfirst := shiftToTargetExponent_wide hlow hhigh
  refine ⟨_, hr, ?_⟩
  rcases Nat.lt_or_eq_of_le hhigh' with hlt | heq
  · exact ⟨_, k + 1, by omega, hlow', hlt, by omega, rfl, id,
      roundWithAccuracy_of_shifts s hfirst (shiftToTargetExponent_normal hlow' hlt (by omega)) _⟩
  · have hsecond := shiftToTargetExponent_carried k
    rw [← heq] at hsecond
    refine ⟨2 ^ 52, k + 2, by decide, le_rfl, by decide, le_rfl, ?_, fun _ => by decide,
      roundWithAccuracy_of_shifts s hfirst hsecond _⟩
    rw [heq, show k + 2 = 1 + (k + 1) by omega, Nat.pow_add, ← Nat.mul_assoc]
    rfl

end Wide

/-! ### The nearest double -/

namespace Dyadic

/-- The number that is meant. -/
def value (d : Dyadic) : ℚ := (if d.negative then -1 else 1) * d.mantissa * 2 ^ d.exponent

/-- No number of 53 binary digits is nearer to `q`, and if another one is as near, the last digit is zero. -/
structure Nearest (d : Dyadic) (q : ℚ) : Prop where
  fits : d.mantissa < 2 ^ 53
  least : ∀ e : Dyadic, e.mantissa < 2 ^ 53 → |d.value - q| ≤ |e.value - q|
  even : ∀ e : Dyadic, e.mantissa < 2 ^ 53 → |d.value - q| = |e.value - q| → e.value = d.value ∨ d.mantissa % 2 = 0

theorem Nearest.of_value {d : Dyadic} {q : ℚ} (hfits : d.mantissa < 2 ^ 53) (h : d.value = q) : d.Nearest q := by
  have hzero : |d.value - q| = 0 := by rw [h, sub_self, abs_zero]
  refine ⟨hfits, fun e _ => hzero ▸ abs_nonneg _, fun e _ heq => .inl ?_⟩
  rw [hzero, eq_comm, abs_eq_zero, sub_eq_zero] at heq
  rw [heq, h]

/-- The same number with the other sign. -/
def opposite (d : Dyadic) : Dyadic := { d with negative := !d.negative }

theorem value_opposite (d : Dyadic) : d.opposite.value = -d.value := by
  rcases d with ⟨negative, m, e⟩
  cases negative <;> simp [opposite, value]

theorem Nearest.opposite {d : Dyadic} {q : ℚ} (h : d.Nearest q) : d.opposite.Nearest (-q) := by
  have hdist : ∀ e : Dyadic, |e.opposite.value - -q| = |e.value - q| := fun e => by
    rw [value_opposite, ← abs_neg]
    congr 1
    ring
  have hback : ∀ e : Dyadic, e.opposite.opposite = e := fun e => by simp [Dyadic.opposite]
  refine ⟨h.fits, fun e he => ?_, fun e he heq => ?_⟩
  · rw [hdist, ← hback e, hdist]
    exact h.least e.opposite he
  · rw [hdist, ← hback e, hdist] at heq
    refine (h.even e.opposite he heq).imp_left fun hvalue => ?_
    rw [value_opposite, ← hvalue, value_opposite, neg_neg]

end Dyadic

/-- Among multiples of a step, the one that a number rounds to is nearest. -/
theorem RoundsTo.least {k m r : Nat} (h : RoundsTo k m r) (j : Int) :
    |(r * 2 ^ k - m : Int)| ≤ |j * 2 ^ k - m| ∧
      (|(r * 2 ^ k - m : Int)| = |j * 2 ^ k - m| → j = r ∨ r % 2 = 0) := by
  obtain ⟨hbelow, habove, htie⟩ := h
  rcases eq_or_ne j r with rfl | hne
  · exact ⟨le_rfl, fun _ => .inl rfl⟩
  -- any other multiple is at least one step away from this one
  have hpos : (0 : Int) ≤ 2 ^ k := by positivity
  have hstep : j * 2 ^ k ≤ (r * 2 ^ k : Int) - 2 ^ k ∨ (r * 2 ^ k : Int) + 2 ^ k ≤ j * 2 ^ k := by
    rcases lt_or_gt_of_ne hne with hlt | hgt
    · have := mul_le_mul_of_nonneg_right (show j ≤ r - 1 by omega) hpos
      rw [sub_mul, one_mul] at this
      exact .inl this
    · have := mul_le_mul_of_nonneg_right (show (r + 1 : Int) ≤ j by omega) hpos
      rw [add_mul, one_mul] at this
      exact .inr this
  zify at hbelow habove htie
  generalize (r * 2 ^ k : Int) = a at *
  generalize j * 2 ^ k = b at *
  generalize (2 ^ k : Int) = d at *
  rcases abs_cases (a - m) with ⟨ha, _⟩ | ⟨ha, _⟩ <;> rcases abs_cases (b - m) with ⟨hb, _⟩ | ⟨hb, _⟩ <;>
    rw [ha, hb] <;> exact ⟨by omega, fun heq => .inr (by omega)⟩

/-- What is shifted by `k` at least is a multiple of `2 ^ k`; what is shifted less and has 53 digits is below
`2 ^ (52 + k)`. -/
theorem Dyadic.multiple_or_small (e : Dyadic) (he : e.mantissa < 2 ^ 53) (k : Nat) :
    (∃ j : Int, e.value = ((j * 2 ^ (k + 1) : Int) : ℚ)) ∨ e.value < 2 ^ (53 + k) := by
  rcases e with ⟨negative, m, x⟩
  rcases lt_or_ge x ((k + 1 : Nat) : Int) with hlt | hge
  · right
    have hm : (m : ℚ) < 2 ^ 53 := by exact_mod_cast he
    have hx : (2 : ℚ) ^ x ≤ 2 ^ k := by
      rw [← zpow_natCast]
      exact zpow_le_zpow_right₀ (by norm_num) (by omega)
    have hpos : (0 : ℚ) < 2 ^ x := by positivity
    have hsmall : (m : ℚ) * 2 ^ x < 2 ^ (53 + k) := by
      rw [pow_add]
      exact lt_of_lt_of_le (mul_lt_mul_of_pos_right hm hpos) (mul_le_mul_of_nonneg_left hx (by positivity))
    have hnonneg : (0 : ℚ) ≤ m * 2 ^ x := by positivity
    cases negative
    · simpa [value] using hsmall
    · have : value ⟨true, m, x⟩ = -((m : ℚ) * 2 ^ x) := by simp [value]
      rw [this]
      linarith
  · left
    obtain ⟨i, rfl⟩ : ∃ i : Nat, x = ((k + 1 + i : Nat) : Int) := ⟨(x - (k + 1 : Nat)).toNat, by omega⟩
    refine ⟨(if negative then -1 else 1) * m * 2 ^ i, ?_⟩
    rw [value, zpow_natCast, Nat.add_comm (k + 1), pow_add]
    push_cast
    cases negative <;> simp <;> ring

/-- Rounding to 53 digits gives the nearest number of 53 digits. -/
theorem RoundsTo.nearest {m k r d e : Nat} (h : RoundsTo (k + 1) m r) (hlow : 2 ^ (53 + k) ≤ m)
    (hd : d < 2 ^ 53) (hvalue : d * 2 ^ e = r * 2 ^ (k + 1)) (hparity : r % 2 = 0 → d % 2 = 0) :
    (⟨false, d, (e : Int)⟩ : Dyadic).Nearest m := by
  have hval : (⟨false, d, (e : Int)⟩ : Dyadic).value = ((r * 2 ^ (k + 1) : Int) : ℚ) := by
    simp only [Dyadic.value, Bool.false_eq_true, if_false, one_mul, zpow_natCast]
    exact_mod_cast hvalue
  have hcast : ∀ j : Int, |((j * 2 ^ (k + 1) : Int) : ℚ) - m| = ((|j * 2 ^ (k + 1) - m| : Int) : ℚ) := fun j => by
    push_cast
    rfl
  -- a number that is no multiple lies below the least number with as many digits as `m`, which is one
  have hfar : ∀ x : Dyadic, x.value < 2 ^ (53 + k) → |((r * 2 ^ (k + 1) : Int) : ℚ) - m| < |x.value - m| := by
    intro x hx
    obtain ⟨base, hbase⟩ : ∃ base : Int, ((base * 2 ^ (k + 1) : Int) : ℚ) = 2 ^ (53 + k) := by
      refine ⟨2 ^ 52, ?_⟩
      rw [show 53 + k = 52 + (k + 1) by omega, pow_add 2 52 (k + 1)]
      push_cast
      rfl
    have hm : ((2 : ℚ) ^ (53 + k)) ≤ m := by exact_mod_cast hlow
    have hleast : |((r * 2 ^ (k + 1) : Int) : ℚ) - m| ≤ |((base * 2 ^ (k + 1) : Int) : ℚ) - m| := by
      rw [hcast, hcast]
      exact_mod_cast (h.least base).1
    rw [hbase, abs_of_nonpos (show (2 : ℚ) ^ (53 + k) - m ≤ 0 by linarith)] at hleast
    rw [abs_of_neg (show x.value - m < 0 by linarith)]
    linarith
  refine ⟨hd, fun x hx => ?_, fun x hx heq => ?_⟩
  · rw [hval]
    rcases x.multiple_or_small hx k with ⟨j, hj⟩ | hsmall
    · rw [hj, hcast, hcast]
      exact_mod_cast (h.least j).1
    · exact (hfar x hsmall).le
  · rw [hval] at heq ⊢
    rcases x.multiple_or_small hx k with ⟨j, hj⟩ | hsmall
    · rw [hj, hcast, hcast] at heq
      rcases (h.least j).2 (by exact_mod_cast heq) with rfl | heven
      · exact .inl hj
      · exact .inr (hparity heven)
    · exact absurd heq (hfar x hsmall).ne

/-! ### Whole numbers as doubles -/

theorem ofDecimal_whole {n : Nat} (h0 : 0 < n) (h : n < 2 ^ 64) : ofDecimal n 0 = Float.ofScientific n false 0 := by
  have hlog : n.log2 < 64 := (Nat.log2_lt (by omega)).mpr h
  rw [ofDecimal, if_neg (by simp; omega)]
  simp only [Int.reduceLT, if_false]
  rw [if_neg (by omega), if_neg (by omega)]
  rfl

/-- The conversion of a whole number with more digits than a double has. -/
theorem ofScientific_wide {m k : Nat} (hlow : 2 ^ (53 + k) ≤ m) (hhigh : m < 2 ^ (54 + k)) (hk : k ≤ 900) :
    ∃ (d e : Nat), Normal (Float.ofScientific m false 0) d e ∧ (⟨false, d, (e : Int)⟩ : Dyadic).Nearest m := by
  obtain ⟨r, hr, d, e, hd, hdlow, hdhigh, he, hvalue, hparity, hround⟩ := roundWithAccuracy_wide hlow hhigh .positive
  refine ⟨d, e, ⟨hdlow, hdhigh, by omega, by omega, hd, ?_⟩, hr.nearest hlow hdhigh hvalue hparity⟩
  have hbig : 2 ^ 53 ≤ m := (Nat.pow_le_pow_right (by decide) (by omega)).trans hlow
  have hof : Float.ofScientific m false 0 = Float.ofModel (Float.Model.ofScientific m (Int.ofNat 0)) := by
    rw [Float.ofScientific, dif_neg (by omega)]
    rfl
  have hmodel : UnpackedFloat.ofScientific Format.binary64 m (Int.ofNat 0) = .finite .positive d e hd := by
    have hrange : ¬ Int.ofNat 0 > 2 ^ Format.binary64.exponentBits := by decide
    have hsmall : ¬ Int.ofNat 0 < -((2 ^ Format.binary64.exponentBits : Int) + m.log2) := by
      show ¬ (0 : Int) < -((2 ^ 11 : Int) + m.log2)
      omega
    rw [UnpackedFloat.ofScientific, dif_neg (by omega), if_neg hrange, if_neg hsmall, if_pos (by decide)]
    rw [← hround, UnpackedFloat.mul, Nat.shiftLeft_eq]
    show roundWithAccuracy _ _ (m * 2 ^ 53 * 1) _ _ = _
    rw [Nat.mul_one]
    rfl
  rw [hof]
  show UnpackedFloat.unpack _ (UnpackedFloat.pack _ (UnpackedFloat.ofScientific _ m _)) = _
  rw [hmodel]
  exact unpack_pack .positive hdlow hdhigh (by omega) (by omega) hd

/-- **The conversion of whole numbers rounds to the nearest double**, ties to even. -/
theorem ofDecimal_nearest {n : Nat} (h0 : 0 < n) (h : n ≤ 2 ^ 63) :
    ∃ m e, Normal (ofDecimal n 0) m e ∧ (⟨false, m, e⟩ : Dyadic).Nearest n := by
  rw [ofDecimal_whole h0 (by omega)]
  rcases Nat.lt_or_ge n (2 ^ 53) with hsmall | hbig
  · -- with 53 digits at most nothing is rounded
    have hnormal := (exact_ofInt h0 hsmall).normal h0 hsmall
    refine ⟨_, _, hnormal, .of_value hnormal.high ?_⟩
    simp only [Dyadic.value, Bool.false_eq_true, if_false, one_mul, Nat.shiftLeft_eq, zpow_neg, zpow_natCast]
    push_cast
    exact mul_inv_cancel_right₀ (pow_ne_zero _ two_ne_zero) _
  · have hlow := Nat.log2_self_le (n := n) (by omega)
    have hhigh := Nat.lt_log2_self (n := n)
    have h53 : 53 ≤ n.log2 := (Nat.le_log2 (by omega)).mpr hbig
    have h63 : n.log2 < 64 := (Nat.log2_lt (by omega)).mpr (by omega)
    obtain ⟨d, e, hnormal, hnearest⟩ := ofScientific_wide (m := n) (k := n.log2 - 53)
      (by rwa [Nat.add_sub_cancel' h53]) (by rwa [show 54 + (n.log2 - 53) = n.log2 + 1 by omega]) (by omega)
    exact ⟨d, e, hnormal, hnearest⟩

/-- The double of an integer is the nearest one. -/
theorem floatOfInt_nearest {i : Int} (h : i.natAbs ≤ 2 ^ 63) :
    ∃ d, read (Script.Numeral.floatOfInt i) = .finite d ∧ d.Nearest i := by
  rcases lt_trichotomy i 0 with hneg | rfl | hpos
  · obtain ⟨m, e, hnormal, hnearest⟩ := ofDecimal_nearest (n := i.natAbs) (by omega) h
    refine ⟨⟨true, m, e⟩, ?_, ?_⟩
    · rw [Script.Numeral.floatOfInt, if_pos hneg]
      exact hnormal.read_neg
    · have hi : (i : ℚ) = -((i.natAbs : ℕ) : ℚ) := by
        rw [Nat.cast_natAbs, abs_of_neg hneg]
        push_cast
        ring
      rw [hi]
      exact hnearest.opposite
  · exact ⟨⟨false, 0, -1074⟩, rfl, .of_value (by decide) (by simp [Dyadic.value])⟩
  · obtain ⟨m, e, hnormal, hnearest⟩ := ofDecimal_nearest (n := i.natAbs) (by omega) h
    refine ⟨⟨false, m, e⟩, ?_, ?_⟩
    · rw [Script.Numeral.floatOfInt, if_neg (by omega)]
      exact hnormal.read
    · have hi : (i : ℚ) = ((i.natAbs : ℕ) : ℚ) := by rw [Nat.cast_natAbs, abs_of_pos hpos]
      rw [hi]
      exact hnearest

/-- A double has 53 digits at most. -/
theorem mantissa_lt_of_read {x : Float} {d : Dyadic} (h : read x = .finite d) : d.mantissa < 2 ^ 53 := by
  simp only [read] at h
  split at h
  · split at h <;> cases h
  · split at h <;> cases h
    · show x.toBits.toNat % 2 ^ 52 < 2 ^ 53
      omega
    · show 2 ^ 52 + x.toBits.toNat % 2 ^ 52 < 2 ^ 53
      omega

end ScriptBridge.Number
