import Mathlib
import ScriptBridge.Script.Value

/-!
Whole numbers below `2 ^ 53` as doubles.

    saturatingUInt64 (toFloat t)  =  t

A whole number below `2 ^ 53` has 53 binary digits at most, so it is a double without rounding: its
digits shifted to the left until there are 53, with an exponent that takes the shift back
(`Exact`).  Doubles that compare equal to such a double are that double.
-/
namespace ScriptBridge.Number

open Float.Model Float.Model.UnpackedFloat

/-! ### Digits -/

/-- How far the digits of `n` are shifted to make 53 of them. -/
def slack (n : Nat) : Nat := 52 - n.log2

theorem log2_le {n : Nat} (h0 : 0 < n) (h : n < 2 ^ 53) : n.log2 ≤ 52 :=
  Nat.le_of_lt_succ ((Nat.log2_lt (by omega)).mpr h)

theorem shifted_bounds {n : Nat} (h0 : 0 < n) (h : n < 2 ^ 53) :
    2 ^ 52 ≤ n <<< slack n ∧ n <<< slack n < 2 ^ 53 := by
  have hlog := log2_le h0 h
  have hlow := Nat.log2_self_le (n := n) (by omega)
  have hhigh := Nat.lt_log2_self (n := n)
  rw [Nat.shiftLeft_eq, slack]
  constructor
  · calc 2 ^ 52 = 2 ^ n.log2 * 2 ^ (52 - n.log2) := by
          rw [← Nat.pow_add]
          congr 1
          omega
      _ ≤ n * 2 ^ (52 - n.log2) := Nat.mul_le_mul_right _ hlow
  · calc n * 2 ^ (52 - n.log2) < 2 ^ (n.log2 + 1) * 2 ^ (52 - n.log2) :=
          Nat.mul_lt_mul_of_pos_right hhigh (Nat.two_pow_pos _)
      _ = 2 ^ 53 := by
          rw [← Nat.pow_add]
          congr 1
          omega

theorem log2_eq {m k : Nat} (hlow : 2 ^ k ≤ m) (hhigh : m < 2 ^ (k + 1)) : m.log2 = k := by
  have h0 : m ≠ 0 := by
    have := Nat.two_pow_pos k
    omega
  have hle := (Nat.le_log2 h0).mpr hlow
  have hlt := (Nat.log2_lt h0).mpr hhigh
  omega

/-! ### Rounding that changes nothing -/

theorem targetExponent_eq {t e : Int} (ht : t = e + 53) (he : -1074 ≤ e) :
    Format.binary64.targetExponent t = e := by
  have hmin : Format.binary64.minExponent = -1074 := rfl
  have hbits : ((Format.binary64.mantissaBits : Nat) : Int) = 53 := rfl
  rw [Format.targetExponent, hmin, hbits]
  omega

theorem shiftToTargetExponent_normal {m : Nat} {e : Int} (hlow : 2 ^ 52 ≤ m) (hhigh : m < 2 ^ 53)
    (he : -1074 ≤ e) : shiftToTargetExponent Format.binary64 m e .exact = (⟨m, false, false⟩, e) := by
  have ht : Format.binary64.targetExponent (totalExponent m e) = e := by
    refine targetExponent_eq ?_ he
    rw [totalExponent, log2_eq hlow hhigh]
    omega
  rw [shiftToTargetExponent, ht, shiftToExponent]
  have h0 : (e - e).toNat = 0 := by omega
  rw [h0]
  simp [HShiftRight.hShiftRight, Nat.repeat, ExtendedMantissa.ofMantissaAndAccuracy]

/-- Shifting out zeros leaves no residue. -/
theorem shiftRight_zeros (m k : Nat) :
    (⟨m * 2 ^ k, false, false⟩ : ExtendedMantissa) >>> k = ⟨m, false, false⟩ := by
  show k.repeat ExtendedMantissa.shiftRightOne ⟨m * 2 ^ k, false, false⟩ = _
  induction k generalizing m with
  | zero => simp [Nat.repeat]
  | succ k ih =>
    have hpow : m * 2 ^ (k + 1) = m * 2 * 2 ^ k := by
      rw [Nat.pow_succ, Nat.mul_assoc, Nat.mul_comm 2]
    rw [Nat.repeat, hpow, ih (m * 2), ExtendedMantissa.shiftRightOne]
    simp

/-- Rounding by its two shifts, of which the second takes back what the first has carried. -/
theorem roundWithAccuracy_of_shifts {m d : Nat} {e e₁ e₂ : Int} {em : ExtendedMantissa} (s : Sign)
    (hfirst : shiftToTargetExponent Format.binary64 m e .exact = (em, e₁))
    (hsecond : shiftToTargetExponent Format.binary64 em.roundedMantissa e₁ .exact = (⟨d, false, false⟩, e₂))
    (hd : 0 < d) : roundWithAccuracy Format.binary64 s m e .exact = .finite s d e₂ hd := by
  rw [roundWithAccuracy, hfirst]
  simp only [hsecond]
  rw [dif_neg (by omega)]

theorem roundWithAccuracy_normal {m : Nat} {e : Int} (s : Sign) (hlow : 2 ^ 52 ≤ m)
    (hhigh : m < 2 ^ 53) (he : -1074 ≤ e) (hm : 0 < m) :
    roundWithAccuracy Format.binary64 s m e .exact = .finite s m e hm :=
  roundWithAccuracy_of_shifts s (shiftToTargetExponent_normal hlow hhigh he)
    (shiftToTargetExponent_normal hlow hhigh he) hm

/-- The same with 52 zeros more, which rounding takes off. -/
theorem roundWithAccuracy_zeros {m : Nat} {e : Int} (s : Sign) (hlow : 2 ^ 52 ≤ m)
    (hhigh : m < 2 ^ 53) (he : -1074 ≤ e) (hm : 0 < m) :
    roundWithAccuracy Format.binary64 s (m * 2 ^ 52) (e + -(52 : Nat)) .exact
      = .finite s m e hm := by
  have hlog : (m * 2 ^ 52).log2 = 104 := by
    refine log2_eq ?_ ?_
    · show 2 ^ 52 * 2 ^ 52 ≤ m * 2 ^ 52
      exact Nat.mul_le_mul_right _ hlow
    · show m * 2 ^ 52 < 2 ^ 53 * 2 ^ 52
      exact Nat.mul_lt_mul_of_pos_right hhigh (Nat.two_pow_pos _)
  have hshift : shiftToTargetExponent Format.binary64 (m * 2 ^ 52) (e + -(52 : Nat)) .exact
      = (⟨m, false, false⟩, e) := by
    have ht : Format.binary64.targetExponent (totalExponent (m * 2 ^ 52) (e + -(52 : Nat))) = e := by
      refine targetExponent_eq ?_ he
      rw [totalExponent, hlog]
      omega
    rw [shiftToTargetExponent, ht, shiftToExponent]
    have h52 : (e - (e + -(52 : Nat))).toNat = 52 := by omega
    rw [h52]
    refine Prod.ext (shiftRight_zeros m 52) ?_
    show e + -(52 : Nat) + ((52 : Nat) : Int) = e
    omega
  exact roundWithAccuracy_of_shifts s hshift (shiftToTargetExponent_normal hlow hhigh he) hm

theorem round_whole {n : Nat} (s : Sign) (h0 : 0 < n) (h : n < 2 ^ 53)
    (hm : 0 < n <<< slack n) :
    round Format.binary64 s n 0 = .finite s (n <<< slack n) (-(slack n : Int)) hm := by
  obtain ⟨hlow, hhigh⟩ := shifted_bounds h0 h
  have hlog := log2_le h0 h
  have ht : Format.binary64.targetExponent (totalExponent n 0) = -(slack n : Int) := by
    refine targetExponent_eq ?_ ?_ <;> simp only [totalExponent, slack] <;> omega
  have hshift : (0 - -(slack n : Int)).toNat = slack n := by omega
  rw [UnpackedFloat.round, ht, decreaseExponent, hshift]
  have he : (0 : Int) - slack n = -(slack n : Int) := by omega
  rw [he]
  refine roundWithAccuracy_normal s hlow hhigh ?_ hm
  simp only [slack]
  omega

/-! ### Packing -/

/-- The leading digit is left out when a mantissa is packed, and put back. -/
theorem toNat_append (m : BitVec 52) : (1#1 ++ m).toNat = 2 ^ 52 + m.toNat := by
  rw [BitVec.toNat_append, ← Nat.shiftLeft_add_eq_or_of_lt m.isLt]
  rfl

/-- Packing keeps a double with 53 digits and an exponent in range. -/
theorem unpack_pack (s : Sign) {m : Nat} {e : Int} (hlow : 2 ^ 52 ≤ m) (hhigh : m < 2 ^ 53) (he : -1074 ≤ e)
    (he' : e ≤ 971) (hm : 0 < m) :
    UnpackedFloat.unpack Format.binary64 (UnpackedFloat.pack Format.binary64 (.finite s m e hm))
      = .finite s m e hm := by
  have hbias : Format.binary64.exponentBias = 1023 := rfl
  have hrange : 2 ^ Format.binary64.exponentBits = 2048 := rfl
  obtain ⟨biased, hbiased⟩ : ∃ biased : Nat, e + ((1023 : Nat) : Int) + ((52 : Nat) : Int) = biased :=
    ⟨(e + 1075).toNat, by omega⟩
  have hlog : m.log2 + 1 = Format.binary64.mantissaBits := by
    rw [log2_eq hlow hhigh]
    rfl
  have hpack : UnpackedFloat.pack Format.binary64 (.finite s m e hm)
      = packComponents Format.binary64 s (BitVec.ofNat _ biased) (BitVec.ofNat _ m) := by
    rw [UnpackedFloat.pack, hbias, hbiased, Int.toNat_natCast, if_neg (by omega), if_pos hlog]
  have hexp : (BitVec.ofNat 11 biased).toNat = biased := by
    rw [BitVec.toNat_ofNat]
    exact Nat.mod_eq_of_lt (by omega)
  -- the exponent field is neither that of an infinity nor that of a subnormal number
  have hones : BitVec.ofNat 11 biased ≠ -1#11 := by
    intro h
    have h := congrArg BitVec.toNat h
    rw [hexp] at h
    simp at h
    omega
  have hzero : BitVec.ofNat 11 biased ≠ 0#11 := by
    intro h
    have h := congrArg BitVec.toNat h
    rw [hexp] at h
    simp at h
    omega
  rw [hpack, UnpackedFloat.unpack]
  simp only [unpackExponent_packComponents, unpackMantissa_packComponents,
    unpackSign_packComponents, if_neg hones, if_neg hzero, hexp, toNat_append, hbias]
  congr 1
  · cases s <;> rfl
  · rw [BitVec.toNat_ofNat]
    show 2 ^ 52 + m % 2 ^ 52 = m
    omega
  · omega

/-! ### Reading -/

theorem toNat_unpackExponent (b : BitVec 64) :
    (@unpackExponent Format.binary64 b).toNat = b.toNat / 2 ^ 52 % 2048 := by
  simp [unpackExponent, Nat.shiftRight_eq_div_pow]

theorem toNat_unpackMantissa (b : BitVec 64) :
    (@unpackMantissa Format.binary64 b).toNat = b.toNat % 2 ^ 52 := by
  simp [unpackMantissa]

theorem toNat_unpackSign (b : BitVec 64) :
    (@unpackSign Format.binary64 b).toNat = b.toNat / 2 ^ 63 := by
  have := b.isLt
  simp [unpackSign, Nat.shiftRight_eq_div_pow]
  omega

/-- The sign of a double as its reading has it. -/
def isMinus : Sign → Bool
  | .positive => false
  | .negative => true

/-- What is read of a double, by its parts. -/
def readingOf : UnpackedFloat → Reading
  | .infinity s => .infinite (isMinus s)
  | .notANumber => .nan
  | .zero s => .finite ⟨isMinus s, 0, -1074⟩
  | .finite s m e _ => .finite ⟨isMinus s, m, e⟩

theorem isMinus_unpackSign (b : BitVec 64) :
    isMinus (Sign.ofBitVec (@unpackSign Format.binary64 b)) = (b.toNat / 2 ^ 63 == 1) := by
  have hsgn := toNat_unpackSign b
  have := b.isLt
  rw [← hsgn]
  generalize @unpackSign Format.binary64 b = s
  revert s
  decide

/-- Reading a double is reading its parts. -/
theorem read_eq (x : Float) : read x = readingOf x.toModel.unpack := by
  have hbits : x.toBits.toNat = x.toModel.toBits.toBitVec.toNat := rfl
  rw [Float.Model.unpack, read, hbits]
  generalize x.toModel.toBits.toBitVec = b
  have hexp := toNat_unpackExponent b
  have hman := toNat_unpackMantissa b
  have hsgn := isMinus_unpackSign b
  have hbias : Format.binary64.exponentBias = 1023 := rfl
  simp only [← hexp, ← hman, ← hsgn]
  rw [UnpackedFloat.unpack]
  simp only [hbias]
  -- both readings branch on the exponent field: all ones, all zeros, anything else
  by_cases hones : @unpackExponent Format.binary64 b = -1#11
  · have ho : (@unpackExponent Format.binary64 b).toNat = 2047 := by
      rw [hones]
      rfl
    rw [if_pos hones]
    by_cases hzero : @unpackMantissa Format.binary64 b = 0#52
    · rw [if_pos hzero, hzero]
      simp [ho, readingOf]
    · have hz : (@unpackMantissa Format.binary64 b).toNat ≠ 0 :=
        fun h0 => hzero (BitVec.eq_of_toNat_eq h0)
      rw [if_neg hzero]
      simp [ho, hz, readingOf]
  · have hfinite : (@unpackExponent Format.binary64 b).toNat ≠ 2047 :=
      fun h0 => hones (BitVec.eq_of_toNat_eq h0)
    rw [if_neg hones]
    by_cases hzero : @unpackExponent Format.binary64 b = 0#11
    · rw [if_pos hzero, hzero]
      by_cases hm : @unpackMantissa Format.binary64 b = 0#52
      · rw [dif_pos hm, hm]
        rfl
      · rw [dif_neg hm]
        rfl
    · have hz : (@unpackExponent Format.binary64 b).toNat ≠ 0 :=
        fun h0 => hzero (BitVec.eq_of_toNat_eq h0)
      rw [if_neg hzero]
      simp [hz, hfinite, readingOf, toNat_append]

/-- Doubles that compare equal read the same, but for the sign of zero. -/
theorem reads_of_beq {x y : Float} (h : (x == y) = true) : (∃ d, read x = .finite d ∧ read y = .finite d) ∨
    (∃ b, read x = .infinite b ∧ read y = .infinite b) ∨
      ∃ a b, read x = .finite ⟨a, 0, -1074⟩ ∧ read y = .finite ⟨b, 0, -1074⟩ := by
  have hcompare : UnpackedFloat.compare x.toModel.unpack y.toModel.unpack = some .eq := eq_of_beq h
  rw [read_eq x, read_eq y]
  generalize x.toModel.unpack = u at hcompare ⊢
  generalize y.toModel.unpack = v at hcompare ⊢
  rcases u with s | - | s | ⟨s, m, e, hm⟩ <;> rcases v with s' | - | s' | ⟨s', m', e', hm'⟩
  case infinity.infinity =>
    cases s <;> cases s' <;> first | exact .inr (.inl ⟨_, rfl, rfl⟩) | cases hcompare
  case zero.zero => exact .inr (.inr ⟨_, _, rfl, rfl⟩)
  case finite.finite =>
    -- of the same sign, they have the same digits and the same exponent
    have same : (compare e e').then (compare m m') = .eq →
        ∃ d, readingOf (.finite s m e hm) = .finite d ∧ readingOf (.finite s m' e' hm') = .finite d := by
      intro heq
      obtain ⟨he, hm⟩ := Ordering.then_eq_eq.mp heq
      rw [Std.compare_eq_iff_eq] at he hm
      subst he hm
      exact ⟨_, rfl, rfl⟩
    cases s <;> cases s' <;> first | cases hcompare | skip
    · exact .inl (same (Ordering.swap_eq_eq.mp (Option.some.inj hcompare)))
    · exact .inl (same (Option.some.inj hcompare))
  all_goals first | cases hcompare | (cases s <;> cases hcompare) | (cases s' <;> cases hcompare)

theorem truncate_zero (negative : Bool) (k : Nat) : (Dyadic.mk negative 0 (.negSucc k)).truncate = 0 := by
  rw [Dyadic.truncate]
  show (if negative then -((0 / 2 ^ (k + 1) : Nat) : Int) else (0 / 2 ^ (k + 1) : Nat)) = 0
  rw [Nat.zero_div]
  cases negative <;> rfl

/-- Doubles that compare equal round to the same word. -/
theorem saturatingInt32_of_beq {x y : Float} (h : (x == y) = true) :
    saturatingInt32 x = saturatingInt32 y ∧ isNaN y = false := by
  rw [saturatingInt32, saturatingInt32, isNaN]
  rcases reads_of_beq h with ⟨d, hx, hy⟩ | ⟨b, hx, hy⟩ | ⟨a, b, hx, hy⟩ <;> rw [hx, hy]
  · exact ⟨rfl, rfl⟩
  · exact ⟨rfl, rfl⟩
  · have hzero : (Dyadic.mk a 0 (-1074)).truncate = (Dyadic.mk b 0 (-1074)).truncate :=
      (truncate_zero a 1073).trans (truncate_zero b 1073).symm
    simp only [hzero]
    exact ⟨trivial, rfl⟩

/-! ### Exact doubles -/

/-- The double is positive and has these 53 digits and this exponent. -/
structure Normal (x : Float) (m : Nat) (e : Int) : Prop where
  low : 2 ^ 52 ≤ m
  high : m < 2 ^ 53
  least : -1074 ≤ e
  greatest : e ≤ 971
  unpack : ∃ hm, x.toModel.unpack = .finite .positive m e hm

namespace Normal

variable {x : Float} {m : Nat} {e : Int}

theorem read (h : Normal x m e) : Number.read x = .finite ⟨false, m, e⟩ := by
  obtain ⟨hm, hunpack⟩ := h.unpack
  rw [read_eq, hunpack]
  rfl

/-- The same number with the other sign. -/
theorem read_neg (h : Normal x m e) : Number.read x.neg = .finite ⟨true, m, e⟩ := by
  obtain ⟨hm, hunpack⟩ := h.unpack
  have hneg : x.neg.toModel.unpack = UnpackedFloat.unpack Format.binary64
      (UnpackedFloat.pack Format.binary64 x.toModel.unpack.neg) := rfl
  rw [read_eq, hneg, hunpack]
  show readingOf (UnpackedFloat.unpack _ (UnpackedFloat.pack _ (.finite .negative _ _ hm))) = _
  rw [unpack_pack .negative h.low h.high h.least h.greatest hm]
  rfl

end Normal

/-- The double is the whole number `n`, with all of its 53 digits. -/
def Exact (n : Nat) (x : Float) : Prop :=
  ∃ hm, x.toModel.unpack = .finite .positive (n <<< slack n) (-(slack n : Int)) hm

section Exact

variable {n : Nat} (h0 : 0 < n) (h : n < 2 ^ 53)

include h0 h

theorem shifted_pos : 0 < n <<< slack n := by
  have hlow := (shifted_bounds h0 h).1
  omega

theorem unpack_ofNat :
    UnpackedFloat.unpack Format.binary64
        (UnpackedFloat.pack Format.binary64 (UnpackedFloat.ofNat Format.binary64 n))
      = .finite .positive (n <<< slack n) (-(slack n : Int)) (shifted_pos h0 h) := by
  obtain ⟨hlow, hhigh⟩ := shifted_bounds h0 h
  have hpos : compare (n : Int) 0 = .gt := by
    rw [Int.compare_eq_gt]
    omega
  have hof : UnpackedFloat.ofNat Format.binary64 n
      = .finite .positive (n <<< slack n) (-(slack n : Int)) (shifted_pos h0 h) := by
    rw [UnpackedFloat.ofNat, UnpackedFloat.ofInt, UnpackedFloat.normalize, hpos]
    exact round_whole .positive h0 h (shifted_pos h0 h)
  rw [hof]
  exact unpack_pack .positive hlow hhigh (by simp only [slack]; omega) (by omega) _

/-- The conversion of words is exact. -/
theorem exact_toFloat {t : UInt64} (ht : t.toNat = n) : Exact n t.toFloat := by
  subst ht
  exact ⟨_, unpack_ofNat h0 h⟩

/-- So is the conversion of integers, which multiplies by one on the way. -/
theorem exact_ofInt : Exact n (Float.ofInt n) := by
  obtain ⟨hlow, hhigh⟩ := shifted_bounds h0 h
  have hk : slack n ≤ 52 := Nat.sub_le _ _
  have ht : n.toUInt64.toNat = n := Nat.mod_eq_of_lt (by omega)
  have hmul : Float.ofInt n = n.toUInt64.toFloat * Float.ofBits 0x3FF0000000000000 := by
    show (if h : n < 2 ^ 53 ∧ 0 ≤ 22 then _ else _ : Float) = _
    rw [dif_pos ⟨h, Nat.zero_le _⟩]
    rfl
  obtain ⟨hm, hunpack⟩ := exact_toFloat h0 h ht
  -- the factor is one with 53 digits, so the product has 52 zeros more than the number
  have hone : (Float.ofBits 0x3FF0000000000000).toModel.unpack
      = .finite .positive (2 ^ 52) (-(52 : Nat) : Int) (by decide) := by
    rfl
  have hprod : (Float.ofInt n).toModel.unpack = UnpackedFloat.unpack Format.binary64
      (UnpackedFloat.pack Format.binary64 (UnpackedFloat.mul Format.binary64
        n.toUInt64.toFloat.toModel.unpack (Float.ofBits 0x3FF0000000000000).toModel.unpack)) := by
    rw [hmul]
    rfl
  refine ⟨hm, ?_⟩
  rw [hprod, hunpack, hone, UnpackedFloat.mul]
  have hround : roundWithAccuracy Format.binary64 (Sign.positive * Sign.positive)
      (n <<< slack n * 2 ^ 52) (-(slack n : Int) + -(52 : Nat)) .exact
        = .finite .positive (n <<< slack n) (-(slack n : Int)) hm := by
    exact roundWithAccuracy_zeros .positive hlow hhigh (by omega) hm
  rw [hround]
  exact unpack_pack .positive hlow hhigh (by omega) (by omega) _

end Exact

theorem whole_shifted (n k : Nat) :
    (Dyadic.mk false (n <<< k) (-(k : Int))).whole = n
      ∧ (Dyadic.mk false (n <<< k) (-(k : Int))).isWhole = true := by
  rw [Nat.shiftLeft_eq]
  rcases k with - | k
  · refine ⟨?_, rfl⟩
    show n * 2 ^ 0 * 2 ^ 0 = n
    omega
  · refine ⟨?_, ?_⟩
    · show n * 2 ^ (k + 1) / 2 ^ (k + 1) = n
      exact Nat.mul_div_cancel _ (Nat.two_pow_pos _)
    · show (n * 2 ^ (k + 1) % 2 ^ (k + 1) == 0) = true
      rw [Nat.mul_mod_left]
      rfl

namespace Exact

variable {n : Nat} {x y : Float}

theorem read (hx : Exact n x) :
    Number.read x = .finite ⟨false, n <<< slack n, -(slack n : Int)⟩ := by
  obtain ⟨hm, hunpack⟩ := hx
  rw [read_eq, hunpack]
  rfl

theorem normal (hx : Exact n x) (h0 : 0 < n) (h : n < 2 ^ 53) : Normal x (n <<< slack n) (-(slack n : Int)) := by
  obtain ⟨hlow, hhigh⟩ := shifted_bounds h0 h
  exact ⟨hlow, hhigh, by simp only [slack]; omega, by omega, hx⟩

/-- Rounding to a word gives the number back. -/
theorem saturatingUInt64 (hx : Exact n x) (h : n < 2 ^ 53) :
    Number.saturatingUInt64 x = UInt64.ofNat n := by
  rw [Number.saturatingUInt64, hx.read]
  show UInt64.ofNat (min (Dyadic.mk false (n <<< slack n) (-(slack n : Int))).whole (2 ^ 64 - 1)) = _
  rw [(whole_shifted n (slack n)).1, Nat.min_eq_left (by omega)]

/-- A double that compares equal is the same. -/
theorem of_beq (hx : Exact n x) (h : (x == y) = true) : Exact n y := by
  obtain ⟨hm, hunpack⟩ := hx
  have hcompare : UnpackedFloat.compare x.toModel.unpack y.toModel.unpack = some .eq := eq_of_beq h
  rw [hunpack] at hcompare
  rw [Exact]
  generalize y.toModel.unpack = u at hcompare ⊢
  rcases u with s | - | s | ⟨s, m, e, hm'⟩
  · cases s <;> cases hcompare
  · cases hcompare
  · cases hcompare
  · cases s with
    | negative => cases hcompare
    | positive =>
      have heq : (compare (-(slack n : Int)) e).then (compare (n <<< slack n) m) = .eq :=
        Option.some.inj hcompare
      obtain ⟨he, hm''⟩ := Ordering.then_eq_eq.mp heq
      rw [Std.compare_eq_iff_eq] at he hm''
      subst he hm''
      exact ⟨hm', rfl⟩

end Exact

/-- A property of numbers that all numbers which compare equal have in common. -/
structure Common (P : Float → Prop) : Prop where
  number : ∀ {x}, P x → isNaN x = false
  equal : ∀ {x y}, P x → (x == y) = true → P y

theorem Exact.common (n : Nat) : Common (Exact n) where
  number hx := by
    rw [isNaN, hx.read]
    rfl
  equal := Exact.of_beq

/-- The double is a number that rounds to this word. -/
def Rounds (k : Int32) (x : Float) : Prop := saturatingInt32 x = k ∧ isNaN x = false

theorem Rounds.common (k : Int32) : Common (Rounds k) where
  number hx := hx.2
  equal hx h := ⟨(saturatingInt32_of_beq h).1.symm.trans hx.1, (saturatingInt32_of_beq h).2⟩

/-- A whole number of 32 bits comes back as it was. -/
theorem rounds_ofInt (k : Int32) : Rounds k (Float.ofInt k.toInt) := by
  have hlow := k.le_toInt
  have hhigh := k.toInt_lt
  have back : Int32.ofInt (max (-2147483648) (min 2147483647 k.toInt)) = k := by
    rw [Int.min_eq_right (by omega), Int.max_eq_right (by omega), Int32.ofInt_toInt]
  -- what is read is its magnitude and its sign
  suffices h : ∃ d, read (Float.ofInt k.toInt) = .finite d ∧ d.truncate = k.toInt by
    obtain ⟨d, hread, hd⟩ := h
    rw [Rounds, saturatingInt32, isNaN, hread]
    rw [← hd] at back
    exact ⟨back, rfl⟩
  rcases hk : k.toInt with n | n <;> rw [hk] at hlow hhigh
  · have hsmall : n < 2 ^ 53 := by
      have : (n : Int) < 2 ^ 31 := hhigh
      omega
    rcases Nat.eq_zero_or_pos n with rfl | hpos
    · exact ⟨⟨false, 0, -1074⟩, rfl, truncate_zero false 1073⟩
    · have hexact : Exact n (Float.ofInt n) := exact_ofInt hpos hsmall
      exact ⟨_, hexact.read, congrArg Nat.cast (whole_shifted n (slack n)).1⟩
  · have hexact : Exact (n + 1) (Float.ofInt (n + 1 : Nat)) := exact_ofInt (by omega) (by omega)
    refine ⟨_, (hexact.normal (by omega) (by omega)).read_neg, ?_⟩
    show -((Dyadic.mk true _ _).whole : Int) = _
    exact congrArg (fun m : Nat => -(m : Int)) (whole_shifted (n + 1) (slack (n + 1))).1

end ScriptBridge.Number
