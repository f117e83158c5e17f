import Mathlib.Data.Rat.Floor
import Mathlib.Tactic.Linarith

/-- A numeric value of binary64. The sign of zero is not kept. -/
inductive Number
  | nan
  | infinity (negative : Bool)
  | finite (value : Rat)
  deriving DecidableEq

namespace Double

/-- The weight of the last significant bit of a 53 bit significand for `n`. -/
def ulp (n : Nat) : Nat := 2 ^ (Nat.log2 n - 52)

/-- Round to the nearest value of 53 significant bits, ties to even. -/
def roundNat (n : Nat) : Nat :=
  let down := n / ulp n
  let rest := n % ulp n
  if ulp n < 2 * rest ∨ (2 * rest = ulp n ∧ down % 2 = 1) then (down + 1) * ulp n
  else down * ulp n

def roundInt (x : Int) : Int :=
  if x < 0 then -(roundNat x.natAbs : Int) else (roundNat x.natAbs : Int)

theorem ulp_eq_one {n : Nat} (small : n < 2 ^ 53) : ulp n = 1 := by
  have bits : Nat.log2 n < 53 := by
    by_cases zero : n = 0
    · simp [zero]
    · exact (Nat.log2_lt zero).mpr small
  have shift : Nat.log2 n - 52 = 0 := by omega
  simp [ulp, shift]

theorem roundNat_exact {n : Nat} (small : n < 2 ^ 53) : roundNat n = n := by
  simp [roundNat, ulp_eq_one small, Nat.mod_one]

/-- Integers of magnitude below 2^53 are stored exactly. -/
theorem roundInt_exact {x : Int} (small : x.natAbs < 2 ^ 53) : roundInt x = x := by
  simp only [roundInt, roundNat_exact small]
  split <;> omega

end Double

namespace Number

/-- A machine integer turned into a number. -/
def ofInt (x : Int) : Number := .finite (Double.roundInt x)

/-- Conversion to a 64 bit integer: a value that is no number gives zero, a
fraction loses its fractional part, values out of range saturate. -/
def toInt64 : Number → Int64
  | .nan => 0
  | .infinity negative => if negative then Int64.minValue else Int64.maxValue
  | .finite value =>
    if 2 ^ 63 ≤ value then Int64.maxValue
    else if value ≤ -2 ^ 63 then Int64.minValue
    else Int64.ofInt (value.num.tdiv value.den)

/-- Conversion to a 32 bit integer: no number and no finite value give zero,
values out of range wrap. -/
def toInt32 : Number → Int32
  | .finite value => Int32.ofInt (value.num.tdiv value.den)
  | _ => 0

/-- Small integers survive the way through a number. -/
theorem toInt64_ofInt {x : Int64} (small : x.toInt.natAbs < 2 ^ 53) :
    (ofInt x.toInt).toInt64 = x := by
  have lower : ¬ (x.toInt : Rat) ≤ -2 ^ 63 := by
    have : ¬ x.toInt ≤ -2 ^ 63 := by omega
    exact_mod_cast this
  have upper : ¬ (2 ^ 63 : Rat) ≤ (x.toInt : Rat) := by
    have : ¬ (2 ^ 63 : Int) ≤ x.toInt := by omega
    exact_mod_cast this
  simp [ofInt, toInt64, Double.roundInt_exact small, lower, upper]

theorem le_neg_one_iff (v : Rat) : v ≤ -1 ↔ v.num ≤ -v.den := by
  have positive : (0 : Rat) < v.den := by exact_mod_cast v.den_pos
  calc v ≤ -1 ↔ (v.num : Rat) / v.den ≤ -1 := by rw [Rat.num_div_den]
    _ ↔ (v.num : Rat) ≤ -1 * v.den := div_le_iff₀ positive
    _ ↔ v.num ≤ -v.den := by rw [neg_one_mul]; exact_mod_cast Iff.rfl

/-- Truncation gives a negative integer from -1 on downwards. -/
theorem tdiv_neg_iff (v : Rat) : v.num.tdiv v.den < 0 ↔ v ≤ -1 := by
  rw [le_neg_one_iff]
  have positive : (0 : Int) < v.den := by exact_mod_cast v.den_pos
  have flipped : (-v.num).tdiv v.den = -v.num.tdiv v.den := Int.neg_tdiv ..
  constructor
  · intro negative
    by_contra above
    by_cases sign : 0 ≤ v.num
    · have natural := Int.tdiv_nonneg sign positive.le
      omega
    · have zero : (-v.num).tdiv v.den = 0 := Int.tdiv_eq_zero_of_lt (by omega) (by omega)
      omega
  · intro below
    have quotient : 1 ≤ (-v.num) / v.den := (Int.le_ediv_iff_mul_le positive).mpr (by omega)
    rw [← Int.tdiv_eq_ediv_of_nonneg (by omega)] at quotient
    omega

/-- A truncated number is no larger than the number. -/
theorem natAbs_tdiv_lt {v : Rat} {bound : Nat} (small : |v| < bound) : (v.num.tdiv v.den).natAbs < bound := by
  have positive : (0 : Rat) < v.den := by exact_mod_cast v.den_pos
  rw [Rat.abs_def, Rat.divInt_eq_div, Int.cast_natCast, Int.cast_natCast, div_lt_iff₀ positive] at small
  rw [Int.natAbs_tdiv, Int.natAbs_natCast]
  exact (Nat.div_lt_iff_lt_mul v.den_pos).mpr (by exact_mod_cast small)

theorem toInt64_neg_iff (v : Rat) : (finite v).toInt64 < 0 ↔ v ≤ -1 := by
  simp only [toInt64]
  split
  · rename_i high
    constructor
    · intro negative
      exact absurd negative (by decide)
    · intro low
      linarith
  · rename_i high
    split
    · rename_i low
      exact ⟨fun _ => by linarith, fun _ => by decide⟩
    · rename_i low
      have small : (v.num.tdiv v.den).natAbs < 2 ^ 63 :=
        natAbs_tdiv_lt (abs_lt.mpr ⟨by push_cast; linarith, by push_cast; linarith⟩)
      rw [← tdiv_neg_iff, Int64.lt_iff_toInt_lt, Int64.toInt_ofInt_of_le (by omega) (by omega)]
      rfl

theorem toInt64_natCast {n : Nat} (small : n < 2 ^ 63) : (finite (n : Rat)).toInt64 = Int64.ofInt n := by
  have upper : ¬ (2 ^ 63 : Rat) ≤ (n : Rat) := by
    rw [not_le]
    exact_mod_cast small
  have lower : ¬ (n : Rat) ≤ -2 ^ 63 := by
    have natural : (0 : Rat) ≤ n := Nat.cast_nonneg n
    linarith
  simp [toInt64, upper, lower]

/-- Read as a 64 bit integer and cut to 32 bits, a natural number is kept as it
is if and only if it is a whole number below 2^31. -/
theorem toInt32_toInt64_eq_iff {v : Rat} (natural : 0 ≤ v) :
    (((finite v).toInt64.toInt32.toInt : Int) : Rat) = v ↔ ∃ n : Nat, n < 2 ^ 31 ∧ v = n := by
  constructor
  · intro kept
    have upper := (finite v).toInt64.toInt32.toInt_lt
    have lower : 0 ≤ (finite v).toInt64.toInt32.toInt := by
      rw [← kept] at natural
      exact_mod_cast natural
    refine ⟨(finite v).toInt64.toInt32.toInt.toNat, by omega, ?_⟩
    rw [← Int.cast_natCast, Int.toNat_of_nonneg lower, kept]
  · rintro ⟨n, small, rfl⟩
    rw [toInt64_natCast (by omega), Int64.toInt32_ofInt, Int32.toInt_ofInt_of_le (by omega) (by omega)]
    rfl

end Number
