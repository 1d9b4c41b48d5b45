import SqlTemplate.Value
import Mathlib.Order.Monotone.Basic
import Mathlib.Tactic.Ring

/-!
# The order of binary64 numbers

A rank counts the magnitudes below it, so a larger rank is a larger magnitude, and comparing
places in the order is comparing exact values.

> `order_lt_order_iff`: finite numbers are ordered by their values.
> `compare?_eq_none_iff`: only what is not a number compares with nothing.
-/

namespace SqlTemplate

/-! ## Ranks and magnitudes -/

/-- The magnitude of a rank, in units of `2 ^ -1074`. -/
def unitsOfRank (rank : Nat) : Nat :=
  (if rank < binade then rank else binade + rank % binade) * 2 ^ (rank / binade - 1)

/-- Below the first binade a rank is its own magnitude. -/
theorem unitsOfRank_of_lt {rank : Nat} (h : rank < binade) : unitsOfRank rank = rank := by
  rw [unitsOfRank, if_pos h, Nat.div_eq_of_lt h]
  exact Nat.mul_one rank

/-- The magnitudes of a binade are multiples of one power of two. -/
theorem unitsOfRank_binade {k m : Nat} (h : m < binade) :
    unitsOfRank ((k + 1) * binade + m) = (binade + m) * 2 ^ k := by
  have hpos : 0 < binade := by decide
  have hge : ¬ (k + 1) * binade + m < binade := by
    rw [Nat.add_mul, Nat.one_mul]
    omega
  have hmod : ((k + 1) * binade + m) % binade = m := by
    rw [Nat.add_comm, Nat.add_mul_mod_self_right, Nat.mod_eq_of_lt h]
  have hdiv : ((k + 1) * binade + m) / binade = k + 1 := by
    rw [Nat.add_comm, Nat.add_mul_div_right _ _ hpos, Nat.div_eq_of_lt h, Nat.zero_add]
  rw [unitsOfRank, if_neg hge, hmod, hdiv, Nat.add_sub_cancel]

/-- A significand of the binade, or twice the first one, with which the next binade begins. -/
theorem unitsOfRank_add {k q : Nat} (hlow : binade ≤ q) (hhigh : q ≤ 2 * binade) :
    unitsOfRank (k * binade + q) = q * 2 ^ k := by
  by_cases hlast : q = 2 * binade
  · have hrank : k * binade + q = (k + 1 + 1) * binade + 0 := by
      rw [hlast]
      ring
    rw [hrank, unitsOfRank_binade (by decide), hlast]
    ring
  · have hrank : k * binade + q = (k + 1) * binade + (q - binade) := by
      rw [Nat.add_mul, Nat.one_mul]
      omega
    rw [hrank, unitsOfRank_binade (by omega), Nat.add_sub_cancel' hlow]

/-- A larger rank is a larger magnitude. -/
theorem unitsOfRank_strictMono : StrictMono unitsOfRank := by
  refine strictMono_nat_of_lt_succ fun rank => ?_
  by_cases hfirst : rank < binade
  · rw [unitsOfRank_of_lt hfirst]
    by_cases hnext : rank + 1 < binade
    · rw [unitsOfRank_of_lt hnext]
      exact Nat.lt_succ_self rank
    · have hrank : rank + 1 = 0 * binade + binade := by omega
      rw [hrank, unitsOfRank_add (Nat.le_refl _) (by decide), Nat.pow_zero, Nat.mul_one]
      exact hfirst
  · -- one binade further down the significand tells where in the binade the rank is
    obtain ⟨k, m, hm, hrank⟩ : ∃ k m, m < binade ∧ rank = k * binade + (binade + m) := by
      refine ⟨rank / binade - 1, rank % binade, Nat.mod_lt _ (by decide), ?_⟩
      have hone : 1 ≤ rank / binade := (Nat.one_le_div_iff (by decide)).mpr (Nat.not_lt.mp hfirst)
      rw [← Nat.add_assoc, ← Nat.succ_mul, Nat.succ_eq_add_one, Nat.sub_add_cancel hone,
        Nat.mul_comm, Nat.div_add_mod]
    rw [hrank, Nat.add_assoc, unitsOfRank_add (by omega) (by omega),
      unitsOfRank_add (by omega) (by omega)]
    exact Nat.mul_lt_mul_of_pos_right (Nat.lt_succ_self _) (Nat.two_pow_pos k)

namespace Finite64

/-- The magnitude of a number is that of its rank. -/
theorem units_eq (x : Finite64) : x.units = unitsOfRank x.rank := rfl

/-- The exact value, in units of `2 ^ -1074`. -/
def value (x : Finite64) : Int := if x.negative then -(x.units : Int) else x.units

/-- The places in the order are those of the values. -/
theorem order_lt_order_iff {x y : Finite64} : x.order < y.order ↔ x.value < y.value := by
  have hlt : ∀ {a b : Nat}, unitsOfRank a < unitsOfRank b ↔ a < b :=
    unitsOfRank_strictMono.lt_iff_lt
  have hzero : ∀ {a : Nat}, 0 < unitsOfRank a ↔ 0 < a := hlt (a := 0)
  have hxy := hlt (a := x.rank) (b := y.rank)
  have hyx := hlt (a := y.rank) (b := x.rank)
  have hx := hzero (a := x.rank)
  have hy := hzero (a := y.rank)
  unfold order value
  rw [units_eq, units_eq]
  cases x.negative <;> cases y.negative <;> simp only [if_true, if_false, Bool.false_eq_true] <;>
    omega

end Finite64

namespace Binary64

/-- Finite numbers compare as their exact values. -/
theorem compare?_finite (x y : Finite64) :
    (finite x).compare? (finite y) = some (compare x.value y.value) := by
  have hlt := Finite64.order_lt_order_iff (x := x) (y := y)
  have hgt := Finite64.order_lt_order_iff (x := y) (y := x)
  have heq : compare x.order y.order = compare x.value y.value := by
    rcases Int.lt_trichotomy x.order y.order with h | h | h
    · rw [Int.compare_eq_lt.mpr h, Int.compare_eq_lt.mpr (hlt.mp h)]
    · have hvalue : x.value = y.value := by omega
      rw [Int.compare_eq_eq.mpr h, Int.compare_eq_eq.mpr hvalue]
    · rw [Int.compare_eq_gt.mpr h, Int.compare_eq_gt.mpr (hgt.mp h)]
  exact congrArg some heq

theorem ofInt_ne_nan (n : Int) : ofInt n ≠ nan := by
  unfold ofInt ofRatio
  split <;> simp

theorem compare?_self {x : Binary64} (h : x ≠ nan) : x.compare? x = some .eq := by
  cases x with
  | finite x => simp [compare?, order?]
  | infinite negative => simp [compare?, order?]
  | nan => exact absurd rfl h

/-- Only what is not a number has no place in the order. -/
theorem compare?_eq_none_iff {x y : Binary64} : x.compare? y = none ↔ x = nan ∨ y = nan := by
  have horder : ∀ z : Binary64, z.order? = none ↔ z = nan := by
    intro z
    cases z <;> simp [order?]
  rw [← horder x, ← horder y]
  cases hx : x.order? <;> cases hy : y.order? <;> simp [compare?, hx, hy]

end Binary64

theorem Number.toBinary64_ne_nan (n : Number) : n.toBinary64 ≠ .nan := by
  cases n with
  | integer n range => exact Binary64.ofInt_ne_nan n
  | float x => exact nofun

end SqlTemplate
