import SqlTemplate.Proofs.Numeric.Binary64
import Mathlib.Data.Nat.Log

/-!
# Integers as binary64 numbers

A binary64 number keeps 53 binary digits. An integer of at most that many is kept as it is; of a
longer one the first 53 are kept, rounded to the even neighbour where two are as near.

> `rounded_mono`: rounding never turns two integers round.
> `rounded_ne_of_lt`: an integer of at most 53 digits is rounded to no other one's value.
> `Binary64.compare?_ofInt`: as binary64 numbers, integers compare as their rounded values.
-/

namespace SqlTemplate

/-! ## Rounding a quotient -/

/-- A quotient is not rounded below its whole part. -/
theorem le_roundEven (num den : Nat) : num / den ≤ roundEven num den := by
  unfold roundEven
  dsimp only
  split <;> omega

/-- Nor above the next whole number. -/
theorem roundEven_le (num den : Nat) : roundEven num den ≤ num / den + 1 := by
  unfold roundEven
  dsimp only
  split <;> omega

/-- A whole quotient is not rounded. -/
theorem roundEven_mul (q : Nat) {den : Nat} (h : 0 < den) : roundEven (q * den) den = q := by
  unfold roundEven
  rw [Nat.mul_mod_left, Nat.mul_div_cancel q h]
  exact if_pos (Or.inl h)

/-- A common factor does not matter. -/
theorem roundEven_mul_mul (num den : Nat) {k : Nat} (h : 0 < k) :
    roundEven (num * k) (den * k) = roundEven num den := by
  have htwice : 2 * (num * k % (den * k)) = 2 * (num % den) * k := by
    rw [Nat.mul_mod_mul_right, Nat.mul_assoc]
  unfold roundEven
  simp only [Nat.mul_div_mul_right num den h, htwice, Nat.mul_lt_mul_right h,
    Nat.mul_right_cancel_iff h]

/-- A larger number has no smaller rounded quotient. -/
theorem roundEven_mono {m n : Nat} (h : m ≤ n) (den : Nat) :
    roundEven m den ≤ roundEven n den := by
  have hquotient := Nat.div_le_div_right (c := den) h
  by_cases heq : m / den = n / den
  · have hm := Nat.div_add_mod m den
    have hn := Nat.div_add_mod n den
    rw [heq] at hm
    have hrest : m % den ≤ n % den := by omega
    unfold roundEven
    rw [heq]
    dsimp only
    split <;> split <;> omega
  · calc roundEven m den ≤ m / den + 1 := roundEven_le m den
      _ ≤ n / den := Nat.lt_of_le_of_ne hquotient heq
      _ ≤ roundEven n den := le_roundEven n den

/-! ## Rounding to 53 binary digits -/

/-- The unit of the last digit, where 53 binary digits of a number are kept. -/
def lastUnit (n : Nat) : Nat := 2 ^ (n.log2 - 52)

/-- A natural number rounded to 53 binary digits, a half to the even neighbour. -/
def roundedNat (n : Nat) : Nat := roundEven n (lastUnit n) * lastUnit n

/-- An integer rounded to 53 binary digits. -/
def rounded (n : Int) : Int := if n < 0 then -(roundedNat n.natAbs : Int) else roundedNat n.natAbs

/-- The binary digits of a number are those of its multiple by a power of two. -/
theorem log2_mul_two_pow {n : Nat} (h : n ≠ 0) (p : Nat) : (n * 2 ^ p).log2 = n.log2 + p := by
  have hpos : 0 < 2 ^ p := Nat.two_pow_pos p
  rw [Nat.log2_eq_iff (Nat.mul_ne_zero h (Nat.ne_of_gt hpos)), Nat.pow_add, Nat.add_right_comm,
    Nat.pow_add]
  exact ⟨Nat.mul_le_mul_right _ (Nat.log2_self_le h), Nat.mul_lt_mul_of_pos_right Nat.lt_log2_self hpos⟩

/-- A number of at most 53 digits is kept. -/
theorem lastUnit_of_log2_le {n : Nat} (h : n.log2 ≤ 52) : lastUnit n = 1 := by
  rw [lastUnit, Nat.sub_eq_zero_of_le h, Nat.pow_zero]

theorem roundedNat_of_log2_le {n : Nat} (h : n.log2 ≤ 52) : roundedNat n = n := by
  have hone := roundEven_mul n Nat.one_pos
  rw [Nat.mul_one] at hone
  rw [roundedNat, lastUnit_of_log2_le h, hone, Nat.mul_one]

/-- Of a longer number 53 digits are kept, or one more with which they begin anew. -/
theorem significand_bounds {n : Nat} (h : 52 ≤ n.log2) :
    binade ≤ roundEven n (lastUnit n) ∧ roundEven n (lastUnit n) ≤ 2 * binade := by
  have hne : n ≠ 0 := by
    rintro rfl
    exact absurd h (by decide)
  have hpos : 0 < lastUnit n := Nat.two_pow_pos _
  have hlow : binade ≤ n / lastUnit n := by
    rw [Nat.le_div_iff_mul_le hpos, lastUnit]
    calc binade * 2 ^ (n.log2 - 52) = 2 ^ (52 + (n.log2 - 52)) := (Nat.pow_add 2 52 _).symm
      _ = 2 ^ n.log2 := by rw [Nat.add_sub_cancel' h]
      _ ≤ n := Nat.log2_self_le hne
  have hhigh : n / lastUnit n < 2 * binade := by
    rw [Nat.div_lt_iff_lt_mul hpos, lastUnit]
    calc n < 2 ^ (n.log2 + 1) := Nat.lt_log2_self
      _ = 2 ^ (53 + (n.log2 - 52)) := by rw [show 53 + (n.log2 - 52) = n.log2 + 1 by omega]
      _ = 2 * binade * 2 ^ (n.log2 - 52) := Nat.pow_add 2 53 _
  exact ⟨Nat.le_trans hlow (le_roundEven _ _), Nat.le_trans (roundEven_le _ _) hhigh⟩

/-- In smaller units a number has the same digits: 53 of them are kept, with zeros behind the
last one if there are fewer, and make up the rounded number. -/
theorem significand_mul {n p : Nat} (h : n ≠ 0) (hp : 52 ≤ p) :
    ∃ q, roundEven (n * 2 ^ p) (2 ^ (n.log2 + p - 52)) = q ∧
      q * 2 ^ (n.log2 + p - 52) = roundedNat n * 2 ^ p ∧ binade ≤ q ∧ q ≤ 2 * binade := by
  by_cases hlog : 52 ≤ n.log2
  · have hcut : 2 ^ (n.log2 + p - 52) = lastUnit n * 2 ^ p := by
      rw [lastUnit, ← Nat.pow_add]
      congr 1
      omega
    refine ⟨roundEven n (lastUnit n), ?_, ?_, significand_bounds hlog⟩
    · rw [hcut, roundEven_mul_mul _ _ (Nat.two_pow_pos p)]
    · rw [hcut, roundedNat, Nat.mul_assoc]
  · -- the digits are moved up to the place of the first of 53, and nothing is cut off
    have hle : n.log2 ≤ 52 := Nat.le_of_not_le hlog
    have hcut : n * 2 ^ p = n * 2 ^ (52 - n.log2) * 2 ^ (n.log2 + p - 52) := by
      rw [Nat.mul_assoc, ← Nat.pow_add]
      congr 2
      omega
    refine ⟨n * 2 ^ (52 - n.log2), ?_, ?_, ?_, ?_⟩
    · rw [hcut, roundEven_mul _ (Nat.two_pow_pos _)]
    · rw [roundedNat_of_log2_le hle, hcut]
    · calc binade = 2 ^ n.log2 * 2 ^ (52 - n.log2) := by
            rw [← Nat.pow_add, Nat.add_sub_cancel' hle]
        _ ≤ n * 2 ^ (52 - n.log2) := Nat.mul_le_mul_right _ (Nat.log2_self_le h)
    · calc n * 2 ^ (52 - n.log2) ≤ 2 ^ (n.log2 + 1) * 2 ^ (52 - n.log2) :=
            Nat.mul_le_mul_right _ (Nat.le_of_lt Nat.lt_log2_self)
        _ = 2 ^ 53 := by rw [← Nat.pow_add, show n.log2 + 1 + (52 - n.log2) = 53 by omega]
        _ = 2 * binade := by decide

/-- A rounded number has as many digits as before, or is the first with one more. -/
theorem roundedNat_bounds {n : Nat} (h : n ≠ 0) :
    2 ^ n.log2 ≤ roundedNat n ∧ roundedNat n ≤ 2 ^ (n.log2 + 1) := by
  obtain ⟨q, -, hq, hlow, hhigh⟩ := significand_mul h (Nat.le_refl 52)
  rw [Nat.add_sub_cancel] at hq
  have hpos : 0 < 2 ^ 52 := Nat.two_pow_pos 52
  constructor
  · refine Nat.le_of_mul_le_mul_right ?_ hpos
    calc 2 ^ n.log2 * 2 ^ 52 = binade * 2 ^ n.log2 := Nat.mul_comm _ _
      _ ≤ q * 2 ^ n.log2 := Nat.mul_le_mul_right _ hlow
      _ = roundedNat n * 2 ^ 52 := hq
  · refine Nat.le_of_mul_le_mul_right ?_ hpos
    calc roundedNat n * 2 ^ 52 = q * 2 ^ n.log2 := hq.symm
      _ ≤ 2 * binade * 2 ^ n.log2 := Nat.mul_le_mul_right _ hhigh
      _ = 2 ^ (n.log2 + 1) * 2 ^ 52 := by
          rw [Nat.pow_succ]
          ring

/-- Rounding keeps the order. -/
theorem roundedNat_mono {m n : Nat} (h : m ≤ n) : roundedNat m ≤ roundedNat n := by
  by_cases hm : m = 0
  · rw [hm]
    exact Nat.zero_le _
  have hn : n ≠ 0 := by omega
  have hlog : m.log2 ≤ n.log2 := by
    rw [Nat.log2_eq_log_two, Nat.log2_eq_log_two]
    exact Nat.log_mono_right h
  -- with fewer digits, a power of two lies between; with as many, the units are the same
  rcases Nat.lt_or_eq_of_le hlog with hlt | heq
  · calc roundedNat m ≤ 2 ^ (m.log2 + 1) := (roundedNat_bounds hm).2
      _ ≤ 2 ^ n.log2 := Nat.pow_le_pow_right (by decide) hlt
      _ ≤ roundedNat n := (roundedNat_bounds hn).1
  · rw [roundedNat, roundedNat, lastUnit, lastUnit, heq]
    exact Nat.mul_le_mul_right _ (roundEven_mono h _)

/-- A number of at most 53 digits is kept. -/
theorem roundedNat_of_lt {n : Nat} (h : n < 2 ^ 53) : roundedNat n = n := by
  by_cases hn : n = 0
  · rw [hn]
    rfl
  · have hlog := (Nat.log2_lt hn).mpr h
    exact roundedNat_of_log2_le (Nat.le_of_lt_succ hlog)

/-- Rounding keeps the order of integers too, the negative ones rounded as their magnitudes. -/
theorem rounded_mono {a b : Int} (h : a ≤ b) : rounded a ≤ rounded b := by
  have hnat : ∀ {m n : Nat}, m ≤ n → roundedNat m ≤ roundedNat n := roundedNat_mono
  unfold rounded
  by_cases ha : a < 0
  · rw [if_pos ha]
    by_cases hb : b < 0
    · rw [if_pos hb]
      have := hnat (show b.natAbs ≤ a.natAbs by omega)
      omega
    · rw [if_neg hb]
      omega
  · rw [if_neg ha, if_neg (by omega)]
    have := hnat (show a.natAbs ≤ b.natAbs by omega)
    omega

theorem natAbs_rounded (n : Int) : (rounded n).natAbs = roundedNat n.natAbs := by
  unfold rounded
  split <;> omega

/-- An integer of at most 53 digits is kept. -/
theorem rounded_of_lt {n : Int} (h : n.natAbs < 2 ^ 53) : rounded n = n := by
  rw [rounded, roundedNat_of_lt h]
  omega

/-- And it is told apart from every other one. -/
theorem rounded_ne_of_lt {a b : Int} (h : a.natAbs < 2 ^ 53) (hne : a ≠ b) :
    rounded a ≠ rounded b := by
  have ha := rounded_of_lt h
  intro heq
  by_cases hb : b.natAbs < 2 ^ 53
  · rw [ha, rounded_of_lt hb] at heq
    exact hne heq
  · -- the smallest number with more digits is kept as well
    have hlarge := roundedNat_mono (Nat.le_of_not_lt hb)
    have hkept : roundedNat (2 ^ 53) = 2 ^ 53 := by decide
    have habs := natAbs_rounded b
    rw [← heq, ha] at habs
    omega

/-! ## The nearest binary64 number -/

/-- The magnitude of one, in units of `2 ^ -1074`. -/
def unitsOfOne : Nat := Nat.pow 2 1074

/-- One is a power of two of them. The exponent is a variable so that nothing computes the power. -/
theorem exists_unitsOfOne : ∃ p, 1074 = p ∧ unitsOfOne = 2 ^ p := by
  obtain ⟨p, hp⟩ : ∃ p, 1074 = p := ⟨_, rfl⟩
  refine ⟨p, hp, ?_⟩
  unfold unitsOfOne
  rw [hp, Nat.pow_eq]

theorem unitsOfOne_pos : 0 < unitsOfOne := by
  obtain ⟨p, -, hone⟩ := exists_unitsOfOne
  rw [hone]
  exact Nat.two_pow_pos p

/-- The nearest rank, in units of which one has `unitsOfOne`. -/
theorem rankOfRatio_eq (num den : Nat) :
    rankOfRatio num den =
      ((num * unitsOfOne / den).log2 - 52) * binade +
        roundEven (num * unitsOfOne) (den * 2 ^ ((num * unitsOfOne / den).log2 - 52)) := by
  unfold rankOfRatio unitsOfOne
  rfl

/-- The rank nearest to a whole number: the place of its digits, and the digits that are kept. -/
theorem exists_rankOfRatio {n : Nat} (h : n ≠ 0) :
    ∃ k q, rankOfRatio n 1 = k * binade + q ∧ k = n.log2 + 1022 ∧
      q * 2 ^ k = roundedNat n * unitsOfOne ∧ binade ≤ q ∧ q ≤ 2 * binade := by
  obtain ⟨p, hp, hone⟩ := exists_unitsOfOne
  obtain ⟨q, hq, hunits, hbounds⟩ := significand_mul h (show 52 ≤ p by omega)
  rw [← hone] at hq hunits
  refine ⟨n.log2 + p - 52, q, ?_, by omega, hunits, hbounds⟩
  rw [rankOfRatio_eq, Nat.div_one, Nat.one_mul, hone, log2_mul_two_pow h, ← hone, hq]

/-- The magnitude of the nearest rank is that of the rounded number. -/
theorem unitsOfRank_rankOfRatio (n : Nat) :
    unitsOfRank (rankOfRatio n 1) = roundedNat n * unitsOfOne := by
  by_cases h : n = 0
  · subst h
    decide +kernel
  · obtain ⟨k, q, hrank, -, hunits, hlow, hhigh⟩ := exists_rankOfRatio h
    rw [hrank, unitsOfRank_add hlow hhigh, hunits]

/-- Numbers of 64 digits are far from infinite. -/
theorem rankOfRatio_lt {n : Nat} (h : n < 2 ^ 64) : rankOfRatio n 1 < infiniteRank := by
  by_cases hzero : n = 0
  · subst hzero
    decide +kernel
  · have hlog : n.log2 < 64 := (Nat.log2_lt hzero).mpr h
    obtain ⟨k, q, hrank, hk, -, -, hhigh⟩ := exists_rankOfRatio hzero
    rw [hrank]
    calc k * binade + q ≤ 1085 * binade + 2 * binade :=
          Nat.add_le_add (Nat.mul_le_mul_right _ (by omega)) hhigh
      _ < infiniteRank := by decide

namespace Binary64

/-- The nearest binary64 number to an integer that fits 64 bits has the rounded value. -/
theorem ofInt_eq {n : Int} (h : Fits64 n) :
    ∃ x, ofInt n = .finite x ∧ x.value = rounded n * unitsOfOne := by
  have hlt : n.natAbs < 2 ^ 64 := by omega
  have hrank := rankOfRatio_lt hlt
  refine ⟨⟨n < 0, rankOfRatio n.natAbs 1, hrank⟩, dif_pos hrank, ?_⟩
  rw [Finite64.value, Finite64.units_eq, unitsOfRank_rankOfRatio, rounded]
  by_cases hneg : n < 0
  · rw [decide_eq_true hneg, if_pos rfl, if_pos hneg, Int.natCast_mul, Int.neg_mul]
  · rw [decide_eq_false hneg, if_neg Bool.false_ne_true, if_neg hneg, Int.natCast_mul]

/-- **Integers compare as their rounded values.** -/
theorem compare?_ofInt {a b : Int} (ha : Fits64 a) (hb : Fits64 b) :
    (ofInt a).compare? (ofInt b) = some (compare (rounded a) (rounded b)) := by
  obtain ⟨x, hx, hxvalue⟩ := ofInt_eq ha
  obtain ⟨y, hy, hyvalue⟩ := ofInt_eq hb
  have hpos : (0 : Int) < unitsOfOne := Int.natCast_pos.mpr unitsOfOne_pos
  rw [hx, hy, compare?_finite, hxvalue, hyvalue]
  rcases Int.lt_trichotomy (rounded a) (rounded b) with h | h | h
  · rw [Int.compare_eq_lt.mpr h, Int.compare_eq_lt.mpr (Int.mul_lt_mul_of_pos_right h hpos)]
  · rw [h, Int.compare_eq_eq.mpr rfl, Int.compare_eq_eq.mpr rfl]
  · rw [Int.compare_eq_gt.mpr h, Int.compare_eq_gt.mpr (Int.mul_lt_mul_of_pos_right h hpos)]

end Binary64

end SqlTemplate
