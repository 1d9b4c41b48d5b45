/-!
# Binary64 numbers, exactly

A finite binary64 number is a sign and a *rank*: its place among the magnitudes
the format can hold, counted from zero. Ranks below `2 ^ 52` are the subnormal
magnitudes; from there on each block of `2 ^ 52` ranks is one binade. The
encoding is monotone, so comparing numbers is comparing integers, and every
operation is an exact one on natural numbers followed by a single rounding to
the nearest rank, ties to the even one.
-/

namespace SqlTemplate

/-- The number of ranks in a binade: two to the 52. -/
abbrev binade : Nat := 0x10000000000000

/-- The rank that infinity would have, the first that no finite number has. -/
abbrev infiniteRank : Nat := 2047 * binade

/-- A finite binary64 number. Both zeros have rank 0. -/
structure Finite64 where
  negative : Bool
  rank : Nat
  rank_lt : rank < infiniteRank
deriving DecidableEq

/-- A binary64 number: finite, infinite, or not a number. -/
inductive Binary64 where
  | finite (x : Finite64)
  | infinite (negative : Bool)
  | nan
deriving DecidableEq

namespace Finite64

/-- Zero with a sign. -/
def zero (negative : Bool) : Finite64 := ⟨negative, 0, by decide⟩

instance : Inhabited Finite64 := ⟨zero false⟩

/-- Whether the number is one of the two zeros. -/
def isZero (x : Finite64) : Bool := x.rank == 0

/-- The number's place in the order of all finite numbers; the zeros share place 0. -/
def order (x : Finite64) : Int := if x.negative then -(x.rank : Int) else x.rank

/-- The magnitude is `significand * 2 ^ scale` units of `2 ^ -1074`. -/
def significand (x : Finite64) : Nat :=
  if x.rank < binade then x.rank else binade + x.rank % binade

/-- The exponent that goes with `significand`. -/
def scale (x : Finite64) : Nat := x.rank / binade - 1

/-- The magnitude in units of `2 ^ -1074`. -/
def units (x : Finite64) : Nat := x.significand * Nat.pow 2 x.scale

end Finite64

/-- The quotient rounded to the nearest natural number, a half to the even neighbour. -/
def roundEven (num den : Nat) : Nat :=
  let quotient := num / den
  let twice := 2 * (num % den)
  if twice < den ∨ (twice = den ∧ quotient % 2 = 0) then quotient else quotient + 1

/-- The rank nearest to the magnitude `num / den`. In units of `2 ^ -1074` the
magnitude is cut to 53 binary digits, or to whole units when it has fewer; the
place of the cut and the rounded significand together are the rank. -/
def rankOfRatio (num den : Nat) : Nat :=
  let units := num * Nat.pow 2 1074
  let cut := (units / den).log2 - 52
  cut * binade + roundEven units (den * Nat.pow 2 cut)

namespace Binary64

instance : Inhabited Binary64 := ⟨.nan⟩

/-- The binary64 number nearest to `num / den` with the given sign. -/
def ofRatio (negative : Bool) (num den : Nat) : Binary64 :=
  if h : rankOfRatio num den < infiniteRank then
    .finite ⟨negative, rankOfRatio num den, h⟩
  else
    .infinite negative

/-- The binary64 number nearest to an integer. -/
def ofInt (n : Int) : Binary64 := ofRatio (n < 0) n.natAbs 1

/-- The binary64 number nearest to `digits * 10 ^ exponent`. Exponents so large
or so small that the answer is infinite or zero whatever the digits are decided
without forming the power. -/
def ofDecimal (negative : Bool) (digits : Nat) (exponent : Int) : Binary64 :=
  if digits = 0 then .finite (.zero negative)
  else if 400 < exponent then .infinite negative
  else if exponent < -(400 + (digits.log2 : Int)) then .finite (.zero negative)
  else if 0 ≤ exponent then ofRatio negative (digits * Nat.pow 10 exponent.toNat) 1
  else ofRatio negative digits (Nat.pow 10 (-exponent).toNat)

/-- The number's place in the order of all numbers; what is not a number has none. -/
def order? : Binary64 → Option Int
  | .finite x => some x.order
  | .infinite negative => some (if negative then -(infiniteRank : Int) else infiniteRank)
  | .nan => none

/-- How two numbers compare; `none` when either is not a number. -/
def compare? (x y : Binary64) : Option Ordering :=
  match x.order?, y.order? with
  | some a, some b => some (compare a b)
  | _, _ => none

/-- Numeric equality: the zeros are equal, and what is not a number equals nothing. -/
def equals (x y : Binary64) : Bool := x.compare? y == some .eq

/-- Whether the number is zero or not a number. -/
def isZeroOrNan : Binary64 → Bool
  | .finite x => x.isZero
  | .infinite _ => false
  | .nan => true

/-- The finite number, if it is one. -/
def finite? : Binary64 → Option Finite64
  | .finite x => some x
  | _ => none

theorem compare?_swap (x y : Binary64) :
    y.compare? x = (x.compare? y).map Ordering.swap := by
  cases hx : x.order? with
  | none => cases hy : y.order? <;> simp [compare?, hx, hy]
  | some a =>
    cases hy : y.order? with
    | none => simp [compare?, hx, hy]
    | some b =>
      simp only [compare?, hx, hy, Option.map_some, Option.some.injEq]
      exact Std.OrientedCmp.eq_swap

end Binary64

namespace Finite64

/-- The product, rounded once. -/
def mul (x y : Finite64) : Binary64 :=
  .ofRatio (x.negative != y.negative) (x.units * y.units) (Nat.pow 2 2148)

/-- The quotient by a number other than zero, rounded once. -/
def div (x y : Finite64) : Binary64 :=
  .ofRatio (x.negative != y.negative) x.units y.units

end Finite64

end SqlTemplate
