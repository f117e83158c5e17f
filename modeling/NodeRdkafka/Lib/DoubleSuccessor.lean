import NodeRdkafka.Lib.DoubleQuotient

namespace Double

theorem ulp_pos (n : Nat) : 0 < ulp n := Nat.two_pow_pos _

theorem ulp_mono {m n : Nat} (below : m ≤ n) : ulp m ≤ ulp n := by
  have logs : Nat.log2 m ≤ Nat.log2 n := by
    simp only [Nat.log2_eq_log_two]
    exact Nat.log_mono_right below
  exact Nat.pow_le_pow_right (by norm_num) (by omega)

theorem two_le_ulp_iff {n : Nat} : 2 ≤ ulp n ↔ 2 ^ 53 ≤ n := by
  constructor
  · intro wide
    by_contra small
    rw [ulp_eq_one (by omega)] at wide
    omega
  · intro large
    calc 2 = ulp (2 ^ 53) := by decide +kernel
      _ ≤ ulp n := ulp_mono large

/-- A weight above one is two, or a multiple of four. -/
theorem ulp_two_or_four {n : Nat} (wide : 2 ≤ ulp n) : ulp n = 2 ∨ 4 ≤ ulp n ∧ 4 ∣ ulp n := by
  unfold ulp at wide ⊢
  generalize Nat.log2 n - 52 = shift at wide ⊢
  rcases shift with _ | _ | shift
  · simp at wide
  · exact Or.inl rfl
  · have four : 2 ^ (shift + 1 + 1) = 4 * 2 ^ shift := by rw [pow_succ, pow_succ]; ring
    have positive := Nat.two_pow_pos shift
    exact Or.inr ⟨by omega, four ▸ Dvd.intro _ rfl⟩

theorem quantum_natCast {n : Nat} (large : 2 ^ 52 ≤ n) : quantum n = ulp n := by
  have bits : 52 ≤ Nat.log 2 n := Nat.le_log_of_pow_le (by norm_num) large
  rw [quantum, Nat.abs_cast, Int.log_natCast, ulp, Nat.log2_eq_log_two, Nat.cast_pow, ← zpow_natCast]
  congr 1
  omega

theorem roundEven_div (n : Nat) {u : Nat} (positive : 0 < u) :
    roundEven ((n : Rat) / u) =
      if u < 2 * (n % u) ∨ (2 * (n % u) = u ∧ n / u % 2 = 1) then ((n / u + 1 : Nat) : Int) else (n / u : Nat) := by
  have unit : (0 : Rat) < u := by exact_mod_cast positive
  have floor : ⌊(n : Rat) / u⌋ = ((n / u : Nat) : Int) := by
    rw [← Int.cast_natCast n, Rat.floor_intCast_div_natCast]
    rfl
  have rest : (n : Rat) / u - (n / u : Nat) = (n % u : Nat) / u := by
    have split : (n : Rat) = u * (n / u : Nat) + (n % u : Nat) := by exact_mod_cast (Nat.div_add_mod n u).symm
    rw [sub_eq_iff_eq_add, div_eq_iff unit.ne', add_mul, div_mul_cancel₀ _ unit.ne']
    linarith
  have below : 2 * ((n % u : Nat) / u : Rat) < 1 ↔ 2 * (n % u) < u := by
    rw [← mul_div_assoc, div_lt_one unit]
    exact_mod_cast Iff.rfl
  have above : 1 < 2 * ((n % u : Nat) / u : Rat) ↔ u < 2 * (n % u) := by
    rw [← mul_div_assoc, one_lt_div unit]
    exact_mod_cast Iff.rfl
  rw [roundEven, floor, Int.cast_natCast, rest]
  simp only [below, above]
  split_ifs <;> omega

/-- Rounding a rational number rounds the natural numbers among them. -/
theorem roundRat_eq_roundNat (n : Nat) : roundRat n = roundNat n := by
  by_cases small : n < 2 ^ 53
  · rw [roundRat_natCast small, roundNat_exact small]
  · rw [roundRat, quantum_natCast (by omega), roundEven_div n (ulp_pos n)]
    simp only [roundNat]
    split <;> push_cast <;> rfl

/-- The successor of a value whose last bit weighs more than one has no bit more. -/
theorem ulp_succ {n : Nat} (whole : ulp n ∣ n) (wide : 2 ≤ ulp n) : ulp (n + 1) = ulp n := by
  have large := two_le_ulp_iff.mp wide
  have lower : 2 ^ Nat.log2 n ≤ n := Nat.log2_self_le (by omega)
  have upper : n < 2 ^ (Nat.log2 n + 1) := Nat.lt_log2_self
  have inside : n + 1 ≠ 2 ^ (Nat.log2 n + 1) := by
    intro power
    have next : ulp n ∣ n + 1 := power ▸ Nat.pow_dvd_pow 2 (by omega)
    have one : ulp n ∣ 1 := (Nat.dvd_add_right whole).mp next
    have := Nat.le_of_dvd Nat.one_pos one
    omega
  have same : Nat.log2 (n + 1) = Nat.log2 n := by
    rw [Nat.log2_eq_iff (by omega)]
    omega
  rw [ulp, ulp, same]

/-- What rounding gives: a multiple of the weight of the last bit, its own or of
the next power of two. -/
theorem roundNat_whole {n : Nat} (large : 2 ^ 52 ≤ n) :
    ulp n ∣ roundNat n ∧ ulp (roundNat n) ∣ roundNat n ∧ ulp n ≤ ulp (roundNat n) := by
  have bits : 52 ≤ Nat.log2 n := by
    rw [Nat.log2_eq_log_two]
    exact Nat.le_log_of_pow_le (by norm_num) large
  have lower : 2 ^ Nat.log2 n ≤ n := Nat.log2_self_le (by omega)
  have upper : n < 2 ^ (Nat.log2 n + 1) := Nat.lt_log2_self
  have unit := ulp_pos n
  have low : 2 ^ Nat.log2 n = 2 ^ 52 * ulp n := by
    rw [ulp, ← pow_add]
    congr 1
    omega
  have high : 2 ^ (Nat.log2 n + 1) = 2 ^ 53 * ulp n := by
    rw [ulp, ← pow_add]
    congr 1
    omega
  have least : 2 ^ 52 ≤ n / ulp n := (Nat.le_div_iff_mul_le unit).mpr (low ▸ lower)
  have most : n / ulp n < 2 ^ 53 := (Nat.div_lt_iff_lt_mul unit).mpr (high ▸ upper)
  obtain ⟨significand, same, atLeast, atMost⟩ : ∃ q, roundNat n = q * ulp n ∧ 2 ^ 52 ≤ q ∧ q ≤ 2 ^ 53 := by
    unfold roundNat
    dsimp only
    split
    · exact ⟨n / ulp n + 1, rfl, by omega, by omega⟩
    · exact ⟨n / ulp n, rfl, by omega, by omega⟩
  rcases atMost.lt_or_eq with under | full
  · have log : Nat.log2 (roundNat n) = Nat.log2 n := by
      rw [Nat.log2_eq_iff (by rw [same]; exact Nat.mul_ne_zero (by omega) unit.ne'), same, low, high]
      exact ⟨Nat.mul_le_mul_right _ atLeast, Nat.mul_lt_mul_of_pos_right under unit⟩
    have weight : ulp (roundNat n) = ulp n := by rw [ulp, log, ulp]
    rw [weight, same]
    exact ⟨Dvd.intro_left _ rfl, Dvd.intro_left _ rfl, le_rfl⟩
  · have power : roundNat n = 2 ^ (Nat.log2 n + 1) := by rw [same, full, high]
    have weight : ulp (roundNat n) = 2 ^ (Nat.log2 n + 1 - 52) := by rw [ulp, power, Nat.log2_two_pow]
    refine ⟨same ▸ Dvd.intro_left _ rfl, ?_, ?_⟩
    · rw [weight, power]
      exact Nat.pow_dvd_pow 2 (by omega)
    · rw [weight, ulp]
      exact Nat.pow_le_pow_right (by norm_num) (by omega)

/-- One is lost when it is added to a value whose last bit weighs four or more. -/
theorem roundNat_add_one {n : Nat} (whole : ulp n ∣ n) (wide : 4 ≤ ulp n) : roundNat (n + 1) = n := by
  obtain ⟨q, same⟩ := whole
  have weight := ulp_succ ⟨q, same⟩ (by omega)
  have rest : (n + 1) % ulp n = 1 := by
    rw [Nat.add_mod, Nat.mod_eq_zero_of_dvd ⟨q, same⟩, Nat.zero_add, Nat.mod_mod, Nat.mod_eq_of_lt (by omega)]
  have quotient : (n + 1) / ulp n * ulp n = n := by
    have parts := Nat.div_add_mod (n + 1) (ulp n)
    rw [rest, Nat.mul_comm] at parts
    omega
  rw [roundNat, weight, rest, if_neg (by omega), quotient]

/-- Adding one to a rounded natural number, and rounding, gives the successor of
the number itself exactly here. -/
theorem roundNat_successor_iff (n : Nat) :
    roundNat (roundNat n + 1) = n + 1 ↔ n < 2 ^ 53 ∨ max 4 (ulp n) ∣ n + 1 := by
  by_cases small : n < 2 ^ 53
  · rw [roundNat_exact small]
    refine ⟨fun _ => Or.inl small, fun _ => ?_⟩
    rcases Nat.lt_or_eq_of_le (show n + 1 ≤ 2 ^ 53 by omega) with below | power
    · exact roundNat_exact below
    · rw [power]
      decide +kernel
  · have wide := two_le_ulp_iff.mpr (Nat.le_of_not_lt small)
    obtain ⟨multiple, whole, weight⟩ := roundNat_whole (n := n) (by omega)
    have rounded : roundNat n = if ulp n < 2 * (n % ulp n) ∨ (2 * (n % ulp n) = ulp n ∧ n / ulp n % 2 = 1)
        then (n / ulp n + 1) * ulp n else n / ulp n * ulp n := rfl
    simp only [small, false_or]
    rcases ulp_two_or_four wide with two | four
    · have even : 2 ∣ roundNat n := two ▸ multiple
      have least : max 4 2 = 4 := rfl
      rw [two] at rounded ⊢
      rw [least]
      rcases ulp_two_or_four (wide.trans weight) with same | heavier
      · have next : roundNat (roundNat n + 1) = if 2 < 2 * ((roundNat n + 1) % 2) ∨
            (2 * ((roundNat n + 1) % 2) = 2 ∧ (roundNat n + 1) / 2 % 2 = 1)
            then ((roundNat n + 1) / 2 + 1) * 2 else (roundNat n + 1) / 2 * 2 := by
          rw [roundNat, ulp_succ whole (by omega), same]
        split at rounded <;> split at next <;> omega
      · have lost := roundNat_add_one whole heavier.1
        have divides : 4 ∣ roundNat n := heavier.2.trans whole
        split at rounded <;> omega
    · have lost := roundNat_add_one whole (four.1.trans weight)
      rw [lost, max_eq_right four.1]
      refine ⟨fun same => same ▸ multiple, fun divides => ?_⟩
      -- the number is one below a multiple, which is the nearest
      obtain ⟨q, successor⟩ := divides
      obtain ⟨p, rfl⟩ : ∃ p, q = p + 1 := ⟨q - 1, by rcases q with _ | q <;> omega⟩
      rw [Nat.mul_succ] at successor
      have quotient : n / ulp n = p := Nat.div_eq_of_lt_le (by rw [Nat.mul_comm]; omega)
        (by rw [Nat.mul_comm, Nat.mul_succ]; omega)
      have parts := Nat.div_add_mod n (ulp n)
      rw [quotient] at rounded parts
      rw [rounded, if_pos (Or.inl (by omega)), Nat.mul_comm, Nat.mul_succ]
      exact successor.symm

end Double

/-- The number one added. -/
def Number.succ : Number → Number
  | .finite value => .finite (Double.roundRat (value + 1))
  | x => x

namespace Number

theorem succ_ofInt (n : Nat) : (ofInt n).succ = .finite (Double.roundNat (Double.roundNat n + 1) : Nat) := by
  have natural : ¬ (n : Int) < 0 := by omega
  rw [ofInt, Double.roundInt, if_neg natural, Int.natAbs_natCast, Int.cast_natCast, succ,
    ← Nat.cast_add_one, Double.roundRat_eq_roundNat]

/-- What the successor of a stored 64 bit integer comes back as. The two largest
integers are saturated, one of them to its very successor. -/
theorem toInt64_succ_iff {x : Int64} (natural : 0 ≤ x) :
    (ofInt x.toInt).succ.toInt64 = x + 1 ↔
      x.toInt < 2 ^ 53 ∨ x = Int64.maxValue - 1 ∨
        (((max 4 (Double.ulp x.toInt.toNat) : Nat) : Int) ∣ x.toInt + 1 ∧ x ≠ Int64.maxValue) := by
  have zero : (0 : Int64).toInt = 0 := rfl
  have sign : 0 ≤ x.toInt := zero ▸ Int64.le_iff_toInt_le.mp natural
  have bound := x.toInt_lt
  have greatest : Int64.maxValue.toInt = 2 ^ 63 - 1 := rfl
  obtain ⟨n, same⟩ := Int.eq_ofNat_of_zero_le sign
  have top : x ≠ Int64.maxValue ↔ n ≠ 2 ^ 63 - 1 := by
    rw [ne_eq, ← Int64.toInt_inj, same, greatest]
    omega
  have almost : x = Int64.maxValue - 1 ↔ n = 2 ^ 63 - 2 := by
    have less : (Int64.maxValue - 1).toInt = 2 ^ 63 - 2 := rfl
    rw [← Int64.toInt_inj, same, less]
    omega
  have successor := Double.roundNat_successor_iff n
  have small : (n : Int) < 2 ^ 53 ↔ n < 2 ^ 53 := by omega
  have divides : (((max 4 (Double.ulp n) : Nat) : Int) ∣ (n : Int) + 1) ↔ max 4 (Double.ulp n) ∣ n + 1 := by
    exact_mod_cast Iff.rfl
  rw [same, Int.toNat_natCast, succ_ofInt, top, almost, small, divides]
  by_cases fits : Double.roundNat (Double.roundNat n + 1) < 2 ^ 63
  · have inside : n ≠ 2 ^ 63 - 2 := by
      rintro rfl
      exact absurd fits (by decide +kernel)
    have read : (finite (Double.roundNat (Double.roundNat n + 1) : Nat)).toInt64 = x + 1 ↔
        Double.roundNat (Double.roundNat n + 1) = n + 1 ∧ n ≠ 2 ^ 63 - 1 := by
      rw [toInt64_natCast fits, ← Int64.toInt_inj, Int64.toInt_ofInt_of_le (by omega) (by omega), Int64.toInt_add,
        same]
      by_cases last : n = 2 ^ 63 - 1
      · subst last
        have wrapped : ((2 ^ 63 - 1 : Nat) + (1 : Int64).toInt : Int).bmod (2 ^ 64) = -2 ^ 63 := rfl
        rw [wrapped]
        omega
      · have whole : ((n : Int) + (1 : Int64).toInt).bmod (2 ^ 64) = n + 1 := by
          rw [show (1 : Int64).toInt = 1 from rfl, Int.bmod_eq_of_le (by omega) (by omega)]
        rw [whole]
        omega
    rw [read, successor]
    omega
  · have large : (2 ^ 63 : Rat) ≤ (Double.roundNat (Double.roundNat n + 1) : Nat) := by
      exact_mod_cast Nat.le_of_not_lt fits
    have read : (finite (Double.roundNat (Double.roundNat n + 1) : Nat)).toInt64 = x + 1 ↔ n = 2 ^ 63 - 2 := by
      rw [← almost, toInt64, if_pos large]
      exact ⟨fun saturated => by rw [saturated, Int64.add_sub_cancel],
        fun here => by rw [here, Int64.sub_add_cancel]⟩
    rw [read]
    refine ⟨fun here => Or.inr (Or.inl here), ?_⟩
    rintro (exactly | here | ⟨multiple, inside⟩)
    · have := successor.mpr (Or.inl exactly)
      omega
    · exact here
    · have := successor.mpr (Or.inr multiple)
      omega

end Number
