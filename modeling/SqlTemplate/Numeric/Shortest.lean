import SqlTemplate.Numeric.Binary64

/-!
# The shortest decimal that reads back

A binary64 number is written with the fewest significant digits that still
round to it; among several decimals of that length the nearest is taken. The
reals that round to a number form an interval whose ends are halfway to its
neighbours, both ends included exactly when the significand is even. On the
grid of decimals with a given count of digits only the two points next to the
number can be nearest, so the counts 1, 2, … 17 are tried in turn, in exact
arithmetic on naturals.

How the digits are then laid out — where positional notation stops, how an
exponent is marked — is a format's own decision, held in a `Layout`.
-/

namespace SqlTemplate

/-- The magnitude `digits * 10 ^ exponent`. -/
structure Decimal where
  digits : Nat
  exponent : Int
deriving DecidableEq

namespace Decimal

/-- Trailing zeros moved into the exponent, at most `fuel` of them. -/
def stripZeros : Nat → Decimal → Decimal
  | 0, d => d
  | fuel + 1, d =>
    if d.digits % 10 = 0 then stripZeros fuel ⟨d.digits / 10, d.exponent + 1⟩ else d

/-- The digits, most significant first. -/
def digitChars (d : Decimal) : List Char := Nat.toDigits 10 d.digits

end Decimal

/-- Which of two equally near decimals is taken. -/
inductive TieBreak where
  /-- The one with an even last digit. -/
  | even
  /-- The larger one. -/
  | up
deriving DecidableEq

/-- The reals around a number, as fractions over one denominator. -/
structure Interval where
  low : Nat
  value : Nat
  high : Nat
  den : Nat
  closed : Bool

namespace Finite64

/-- A power of ten that makes every magnitude of the format, and every grid of
decimals it is compared with, a whole number. -/
def gridShift : Nat := 400

/-- The magnitudes that round to `x`, scaled by `10 ^ gridShift`. Below a power of
two the neighbour is half as far as above it. -/
def interval (x : Finite64) : Interval :=
  let quarter := Nat.pow 2 x.scale * Nat.pow 10 gridShift
  let below := if x.rank % binade = 0 ∧ 0 < x.scale then 1 else 2
  { low := (4 * x.significand - below) * quarter
    value := 4 * x.significand * quarter
    high := (4 * x.significand + 2) * quarter
    den := 4 * Nat.pow 2 1074
    closed := x.significand % 2 == 0 }

end Finite64

namespace Interval

/-- Whether `point / den` lies in the interval. -/
def contains (i : Interval) (point : Nat) : Bool :=
  if i.closed then i.low ≤ point && point ≤ i.high else i.low < point && point < i.high

/-- The decimal of the grid of multiples of `10 ^ place` that is nearest to the
value, if one of the value's two neighbours on that grid lies in the interval. -/
def nearestOn (i : Interval) (ties : TieBreak) (place : Nat) : Option Nat :=
  let unit := Nat.pow 10 place * i.den
  let below := i.value / unit
  let gapBelow := i.value - below * unit
  let gapAbove := (below + 1) * unit - i.value
  match i.contains (below * unit), i.contains ((below + 1) * unit) with
  | false, false => none
  | true, false => some below
  | false, true => some (below + 1)
  | true, true =>
    if gapBelow < gapAbove then some below
    else if gapAbove < gapBelow then some (below + 1)
    else match ties with
      | .even => some (if below % 2 = 0 then below else below + 1)
      | .up => some (below + 1)

/-- Tries grids that grow finer place by place until one has a hit; 17 digits
always suffice. -/
def shortest (i : Interval) (ties : TieBreak) : (tries place : Nat) → Nat × Nat
  | 0, place => (i.value / (Nat.pow 10 place * i.den), place)
  | tries + 1, place =>
    match i.nearestOn ties place with
    | some digits => (digits, place)
    | none => shortest i ties tries (place - 1)

end Interval

/-- The shortest decimal magnitude that reads back as `x`. -/
def Finite64.toDecimal (x : Finite64) (ties : TieBreak) : Decimal :=
  if x.isZero then ⟨0, 0⟩
  else
    let i := x.interval
    let width := (Nat.toDigits 10 (i.value / i.den)).length
    let (digits, place) := i.shortest ties 17 (width - 1)
    Decimal.stripZeros 20 ⟨digits, (place : Int) - Finite64.gridShift⟩

/-- The decisions of a format about the text of a number. -/
structure Layout where
  /-- Which of two equally near decimals is written. -/
  ties : TieBreak
  /-- Magnitudes of at least `10 ^ least` and below `10 ^ limit` are positional;
  with `none` all are. -/
  positional : Option (Int × Int)
  /-- Whether a whole number in positional notation keeps `.0`. -/
  pointZero : Bool
  /-- Whether a positive exponent has a plus sign. -/
  plusSign : Bool
  /-- The text of positive infinity; a minus sign stands before it for negative. -/
  infinite : String
  /-- The text of what is not a number. -/
  nan : String

namespace Layout

/-- Digits in positional notation; `point` digits stand before the point. -/
def positionalText (l : Layout) (digits : List Char) (point : Int) : List Char :=
  if point ≤ 0 then '0' :: '.' :: List.replicate (-point).toNat '0' ++ digits
  else if digits.length ≤ point.toNat then
    digits ++ List.replicate (point.toNat - digits.length) '0' ++
      (if l.pointZero then ['.', '0'] else [])
  else digits.take point.toNat ++ '.' :: digits.drop point.toNat

/-- Digits in scientific notation with the given exponent. -/
def scientificText (l : Layout) (digits : List Char) (exponent : Int) : List Char :=
  let mantissa := match digits with
    | [] => []
    | [d] => [d]
    | d :: rest => d :: '.' :: rest
  let sign := if exponent < 0 then ['-'] else if l.plusSign then ['+'] else []
  mantissa ++ 'e' :: sign ++ Nat.toDigits 10 exponent.natAbs

/-- The text of a decimal magnitude. -/
def magnitudeText (l : Layout) (d : Decimal) : List Char :=
  if d.digits = 0 then '0' :: (if l.pointZero then ['.', '0'] else [])
  else
    let digits := d.digitChars
    let point := d.exponent + digits.length
    match l.positional with
    | none => l.positionalText digits point
    | some (least, limit) =>
      if least < point ∧ point ≤ limit then l.positionalText digits point
      else l.scientificText digits (point - 1)

/-- The text of a finite number. -/
def finiteText (l : Layout) (x : Finite64) : String :=
  let magnitude := l.magnitudeText (x.toDecimal l.ties)
  String.ofList (if x.negative then '-' :: magnitude else magnitude)

/-- The text of a number. -/
def text (l : Layout) : Binary64 → String
  | .finite x => l.finiteText x
  | .infinite negative => if negative then "-" ++ l.infinite else l.infinite
  | .nan => l.nan

end Layout

end SqlTemplate
