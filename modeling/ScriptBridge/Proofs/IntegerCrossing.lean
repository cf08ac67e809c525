import ScriptBridge.Bridge.Marshal
import ScriptBridge.Proofs.NearestDoubles

/-!
Integers of 64 bits across the bridge.

A slot of 64 bits becomes a number of the script, and a number is an integer of 32 bits or a double.  So a slot keeps
its value just when the value has no more than 53 binary digits, and otherwise becomes the nearest double, ties to even:

    decode (int64 n)  =  n                        n = m · 2 ^ k,  m < 2 ^ 53
    decode (int64 n)  =  the double nearest to n  in any case

A big integer of that range is in its slot as it is, so what it decodes to is rounded in the same way.
-/
namespace ScriptBridge

open Script

/-- The value of a double that has one. -/
def Number.value? (x : Float) : Option ℚ :=
  match read x with
  | .finite d => some d.value
  | _ => none

/-- The number that a value is. -/
def Script.Value.number? : Value → Option ℚ
  | .int i => some i.toInt
  | .double x => Number.value? x
  | .bigint i _ => some i
  | _ => none

/-- No double is nearer to `i` than this one, and if another is as near, the last digit of this one is zero. -/
def Number.IsNearest (i : Int) (x : Float) : Prop :=
  ∃ d, read x = .finite d ∧ ∀ y p, value? y = some p →
    |d.value - i| ≤ |p - i| ∧ (|d.value - i| = |p - i| → p = d.value ∨ d.mantissa % 2 = 0)

/-- The value is the integer, as one of 32 bits, or the double nearest to it. -/
def Script.Value.Approximates (v : Value) (i : Int) : Prop :=
  match v with
  | .int j => j.toInt = i
  | .double x => Number.IsNearest i x
  | _ => False

/-- The integer has no more than 53 binary digits before its zeros. -/
def IsExact (i : Int) : Prop := ∃ m k : Nat, i.natAbs = m * 2 ^ k ∧ m < 2 ^ 53

namespace Number

theorem Dyadic.Nearest.isNearest {d : Dyadic} {i : Int} {x : Float} (hread : read x = .finite d) (h : d.Nearest i) :
    IsNearest i x := by
  refine ⟨d, hread, fun y p hy => ?_⟩
  rw [value?] at hy
  cases hy' : read y <;> rw [hy'] at hy <;> cases hy
  exact ⟨h.least _ (mantissa_lt_of_read hy'), h.even _ (mantissa_lt_of_read hy')⟩

theorem Dyadic.exists_value {i : Int} {m k : Nat} (h : i.natAbs = m * 2 ^ k) :
    (⟨decide (i < 0), m, (k : Int)⟩ : Dyadic).value = i := by
  have hcast : (m : ℚ) * 2 ^ k = ((|i| : Int) : ℚ) := by
    rw [← Int.natCast_natAbs, h]
    push_cast
    rfl
  rw [Dyadic.value, zpow_natCast, mul_assoc, hcast]
  by_cases hneg : i < 0
  · rw [abs_of_neg hneg]
    simp [hneg]
  · rw [abs_of_nonneg (by omega)]
    simp [hneg]

/-- What 53 digits spell is exact. -/
theorem Dyadic.isExact_of_value {d : Dyadic} {i : Int} (hfits : d.mantissa < 2 ^ 53) (h : d.value = i) : IsExact i := by
  have habs : (i.natAbs : ℚ) = d.mantissa * 2 ^ d.exponent := by
    have hi : (i.natAbs : ℚ) = |d.value| := by rw [h, Nat.cast_natAbs, Int.cast_abs]
    have hpos : (0 : ℚ) ≤ d.mantissa * 2 ^ d.exponent := by positivity
    rw [hi, value, mul_assoc, abs_mul, abs_of_nonneg hpos]
    cases d.negative <;> simp
  rcases he : d.exponent with k | k <;> rw [he] at habs
  · rw [Int.ofNat_eq_natCast, zpow_natCast] at habs
    exact ⟨d.mantissa, k, by exact_mod_cast habs, hfits⟩
  · -- a number with digits behind the point that is whole has fewer digits
    refine ⟨i.natAbs, 0, (Nat.mul_one _).symm, lt_of_le_of_lt ?_ hfits⟩
    have hpow : (2 : ℚ) ^ Int.negSucc k ≤ 1 := zpow_le_one_of_nonpos₀ (by norm_num) (by omega)
    have hle : (i.natAbs : ℚ) ≤ d.mantissa := habs ▸ mul_le_of_le_one_right (by positivity) hpow
    exact_mod_cast hle

/-- A double that is nearest to an exact integer is the integer. -/
theorem Dyadic.Nearest.value_eq_iff {d : Dyadic} {i : Int} (h : d.Nearest i) : d.value = i ↔ IsExact i := by
  refine ⟨isExact_of_value h.fits, fun ⟨m, k, hi, hm⟩ => ?_⟩
  have hleast := h.least ⟨decide (i < 0), m, k⟩ hm
  rw [exists_value hi, sub_self, abs_zero, abs_nonpos_iff, sub_eq_zero] at hleast
  exact hleast

end Number

/-! ### Slots -/

theorem Bridge.numberOfInt64_approximates (n : Int64) : (Bridge.numberOfInt64 n).Approximates n.toInt ∧
    ((Bridge.numberOfInt64 n).number? = some (n.toInt : ℚ) ↔ IsExact n.toInt) := by
  have hlow := n.le_toInt
  have hhigh := n.toInt_lt
  rw [numberOfInt64]
  split
  · rename_i hsmall
    simp only [Bool.and_eq_true, decide_eq_true_eq] at hsmall
    have hback : (Int32.ofInt n.toInt).toInt = n.toInt := Int32.toInt_ofInt_of_le (by omega) (by omega)
    refine ⟨hback, fun _ => ⟨n.toInt.natAbs, 0, (Nat.mul_one _).symm, by omega⟩, fun _ => ?_⟩
    rw [Value.number?, hback]
  · obtain ⟨d, hread, hnearest⟩ := Number.floatOfInt_nearest (i := n.toInt) (by omega)
    refine ⟨hnearest.isNearest hread, ?_⟩
    rw [← hnearest.value_eq_iff, Value.number?, Number.value?, hread]
    exact Option.some_inj

/-- **Integers of 64 bits become the nearest number.**  The number that a slot of 64 bits decodes to is its integer, or
the double nearest to it, ties to even; it is the very integer just when that has no more than 53 binary digits before
its zeros.  A big integer of that range has a slot with its own value, so the same is true of what comes back of it. -/
theorem Bridge.integers_cross (b : Bridge) :
    (∀ n : Int64, ∃ v, b.decode (.int64 n) = .ok v ∧ v.Approximates n.toInt ∧
      (v.number? = some (n.toInt : ℚ) ↔ IsExact n.toInt)) ∧
    ∀ (i : Int) (mark : Mark), -2 ^ 63 ≤ i → i < 2 ^ 63 → ∃ n v, b.encode (.bigint i mark) = (.int64 n, b) ∧
      n.toInt = i ∧ b.decode (.int64 n) = .ok v ∧ v.Approximates i ∧ (v.number? = some (i : ℚ) ↔ IsExact i) := by
  refine ⟨fun n => ⟨_, rfl, numberOfInt64_approximates n⟩, fun i mark hlow hhigh => ?_⟩
  have hback : (Int64.ofInt i).toInt = i := Int64.toInt_ofInt_of_le hlow hhigh
  have happrox := numberOfInt64_approximates (Int64.ofInt i)
  rw [hback] at happrox
  exact ⟨Int64.ofInt i, _, rfl, hback, rfl, happrox⟩

/-- The least integer of 64 bits comes back as it was. -/
theorem Bridge.integers_cross_least :
    ∃ n v, (Bridge.fresh 4 true).encode (.bigint (-2 ^ 63) 1) = (.int64 n, .fresh 4 true) ∧
      (Bridge.fresh 4 true).decode (.int64 n) = .ok v ∧ v.number? = some ((-2 ^ 63 : Int) : ℚ) := by
  obtain ⟨n, v, hencode, -, hdecode, -, hexact⟩ :=
    (Bridge.integers_cross (.fresh 4 true)).2 (-2 ^ 63) 1 le_rfl (by decide)
  exact ⟨n, v, hencode, hdecode, hexact.mpr ⟨1, 63, by decide, by decide⟩⟩

/-- The first integer that is no double decodes to the one before it. -/
theorem Bridge.integer_rounded :
    ¬ (∀ (b : Bridge) (n : Int64), ∃ v, b.decode (.int64 n) = .ok v ∧ v.number? = some (n.toInt : ℚ)) ∧
      ∃ v, (Bridge.fresh 4 true).decode (.int64 9007199254740993) = .ok v ∧ v.number? = some 9007199254740992 := by
  have hread : Number.read (Script.Numeral.floatOfInt 9007199254740993) = .finite ⟨false, 2 ^ 52, 1⟩ := by
    decide
  have hdecode : (Bridge.fresh 4 true).decode (.int64 9007199254740993)
      = .ok (.double (Script.Numeral.floatOfInt 9007199254740993)) := rfl
  have hnumber : (Value.double (Script.Numeral.floatOfInt 9007199254740993)).number? = some 9007199254740992 := by
    rw [Value.number?, Number.value?, hread]
    norm_num [Number.Dyadic.value]
  refine ⟨fun hexact => ?_, _, hdecode, hnumber⟩
  obtain ⟨v, hv, hkept⟩ := hexact (.fresh 4 true) 9007199254740993
  rw [hdecode] at hv
  cases hv
  have hsame : (9007199254740992 : ℚ) = ((9007199254740993 : Int64).toInt : ℚ) :=
    Option.some.inj (hnumber.symm.trans hkept)
  have hint : (9007199254740993 : Int64).toInt = 9007199254740993 := by decide
  rw [hint] at hsame
  norm_num at hsame

end ScriptBridge
