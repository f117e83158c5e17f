import Mathlib.Data.Int.Log
import Mathlib.Tactic.Positivity
import NodeRdkafka.Lib.Double

namespace Double

/-- The nearest integer, ties to even. -/
def roundEven (x : Rat) : Int :=
  if 2 * (x - ⌊x⌋) < 1 then ⌊x⌋
  else if 1 < 2 * (x - ⌊x⌋) then ⌊x⌋ + 1
  else if ⌊x⌋ % 2 = 0 then ⌊x⌋
  else ⌊x⌋ + 1

/-- The weight of the last significant bit of a 53 bit significand for `x`. -/
def quantum (x : Rat) : Rat := 2 ^ (Int.log 2 |x| - 52)

/-- Round to the nearest value of 53 significant bits, ties to even. The
exponent is not bounded. -/
def roundRat (x : Rat) : Rat := roundEven (x / quantum x) * quantum x

/-- The conversion to an integer drops the fraction. -/
def truncate (x : Rat) : Int := x.num.tdiv x.den

theorem roundEven_intCast (n : Int) : roundEven n = n := by simp [roundEven]

theorem roundEven_error (x : Rat) : |(roundEven x : Rat) - x| ≤ 1 / 2 := by
  have lower := Int.floor_le x
  have upper := Int.lt_floor_add_one x
  unfold roundEven
  split
  · exact abs_le.mpr ⟨by linarith, by linarith⟩
  · split
    · push_cast
      exact abs_le.mpr ⟨by linarith, by linarith⟩
    · split
      · exact abs_le.mpr ⟨by linarith, by linarith⟩
      · push_cast
        exact abs_le.mpr ⟨by linarith, by linarith⟩

theorem quantum_pos (x : Rat) : 0 < quantum x := zpow_pos (by norm_num) _

/-- A positive value is at least 2^52 times its quantum. -/
theorem quantum_le {x : Rat} (positive : 0 < x) : quantum x * 2 ^ 52 ≤ x := by
  have scaled : quantum x * 2 ^ 52 = 2 ^ Int.log 2 x := by
    rw [quantum, abs_of_pos positive, ← zpow_natCast, ← zpow_add₀ (by norm_num)]
    congr 1
    push_cast
    ring
  rw [scaled]
  exact_mod_cast Int.zpow_log_le_self (b := 2) (by norm_num) positive

/-- The relative error of rounding is at most 2^-53. -/
theorem roundRat_error {x : Rat} (positive : 0 < x) : |roundRat x - x| ≤ x / 2 ^ 53 := by
  have unit := quantum_pos x
  have near := roundEven_error (x / quantum x)
  have scaled : roundRat x - x = (roundEven (x / quantum x) - x / quantum x) * quantum x := by
    rw [sub_mul, div_mul_cancel₀ x unit.ne', roundRat]
  have large := quantum_le positive
  calc |roundRat x - x| = |(roundEven (x / quantum x) : Rat) - x / quantum x| * quantum x := by
        rw [scaled, abs_mul, abs_of_pos unit]
    _ ≤ 1 / 2 * quantum x := mul_le_mul_of_nonneg_right near unit.le
    _ ≤ x / 2 ^ 53 := by linarith

/-- Integers below 2^53 are stored exactly. -/
theorem roundRat_natCast {n : Nat} (small : n < 2 ^ 53) : roundRat n = n := by
  have unit := quantum_pos (n : Rat)
  obtain ⟨k, whole⟩ : ∃ k : Int, (n : Rat) / quantum n = k := by
    have exponent : Int.log 2 |(n : Rat)| ≤ 52 := by
      rw [Nat.abs_cast, Int.log_natCast]
      exact_mod_cast Nat.lt_succ_iff.mp (Nat.log_lt_of_lt_pow' (by norm_num) small)
    obtain ⟨shift, same⟩ := Int.le.dest exponent
    refine ⟨n * 2 ^ shift, ?_⟩
    have inverse : quantum (n : Rat) = (2 ^ shift)⁻¹ := by
      rw [quantum, ← same, ← zpow_natCast, ← zpow_neg]
      congr 1
      ring
    rw [inverse, div_inv_eq_mul]
    push_cast
    ring
  rw [roundRat, whole, roundEven_intCast, ← whole, div_mul_cancel₀ _ unit.ne']

theorem truncate_eq_floor {x : Rat} (natural : 0 ≤ x) : truncate x = ⌊x⌋ := by
  rw [truncate, Int.tdiv_eq_ediv_of_nonneg (Rat.num_nonneg.mpr natural), Rat.floor_def']

/-- The quotient of two natural numbers in double arithmetic, truncated, is the
integer quotient. -/
theorem truncate_roundRat_div {a b : Nat} (divisor : 0 < b) (small : a < 2 ^ 52) :
    truncate (roundRat (a / b)) = (a / b : Nat) := by
  have unit : (0 : Rat) < b := by exact_mod_cast divisor
  have split : (a : Rat) = b * (a / b : Nat) + (a % b : Nat) := by exact_mod_cast (Nat.div_add_mod a b).symm
  by_cases remainder : a % b = 0
  · have whole : (a : Rat) / b = (a / b : Nat) := by
      rw [remainder] at split
      rw [div_eq_iff unit.ne']
      linarith
    have fits : a / b < 2 ^ 53 := (Nat.div_le_self a b).trans_lt (small.trans (by norm_num))
    rw [whole, roundRat_natCast fits, truncate_eq_floor (Nat.cast_nonneg _), Int.floor_natCast]
  · -- the rest is at least one b-th away from both integers, and the error is smaller
    have rest : (1 : Rat) ≤ (a % b : Nat) := by exact_mod_cast Nat.one_le_iff_ne_zero.mpr remainder
    have below : ((a % b : Nat) : Rat) + 1 ≤ b := by exact_mod_cast Nat.mod_lt a divisor
    have positive : (0 : Rat) < a := by
      have natural : (0 : Rat) ≤ b * (a / b : Nat) := by positivity
      linarith
    have bounded : (a : Rat) < 2 ^ 52 := by exact_mod_cast small
    obtain ⟨lower, upper⟩ := abs_le.mp (roundRat_error (div_pos positive unit))
    have slack : (a : Rat) / b / 2 ^ 53 < 1 / b := by
      rw [div_right_comm]
      exact (div_lt_div_iff_of_pos_right unit).mpr (by linarith)
    have parts : (a : Rat) / b = (a / b : Nat) + (a % b : Nat) / b := by
      rw [div_eq_iff unit.ne', add_mul, div_mul_cancel₀ _ unit.ne']
      linarith
    have above : 1 / (b : Rat) ≤ (a % b : Nat) / b := (div_le_div_iff_of_pos_right unit).mpr rest
    have under : ((a % b : Nat) : Rat) / b ≤ 1 - 1 / b := by
      rw [le_sub_iff_add_le, ← add_div, div_le_one unit]
      exact below
    have natural : (0 : Rat) ≤ (a / b : Nat) := Nat.cast_nonneg _
    have floor : ⌊roundRat (a / b)⌋ = ((a / b : Nat) : Int) := by
      rw [Int.floor_eq_iff, Int.cast_natCast]
      exact ⟨by linarith, by linarith⟩
    rw [truncate_eq_floor (by linarith), floor]

end Double
