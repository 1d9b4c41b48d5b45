import SqlTemplate.Numeric.Binary64

/-!
# Reading numerals

A decimal numeral is a run of digits, an optional point with more digits, at
least one digit in all, and an optional exponent. It denotes the binary64
number nearest to its exact value. As the whole text of a number it may carry a
sign, and the words `inf`, `infinity` and `nan` stand for the special numbers in
any mix of cases.
-/

namespace SqlTemplate

/-- The natural number that a run of decimal digits denotes. -/
def digitsValue (digits : List Char) : Nat :=
  digits.foldl (fun n c => 10 * n + (c.toNat - '0'.toNat)) 0

/-- The decimal digits of a natural number. -/
def natText (n : Nat) : String := String.ofList (Nat.toDigits 10 n)

/-- The decimal digits of an integer, after a minus sign when it is negative. -/
def intText (n : Int) : String :=
  if n < 0 then "-" ++ natText n.natAbs else natText n.natAbs

/-- The natural number that a run of digits denotes in a base up to 16; `none`
when there is no digit or one that the base lacks. -/
def baseValue? (base : Nat) (digits : List Char) : Option Nat :=
  let digit (c : Char) : Option Nat :=
    if c.isDigit then some (c.toNat - '0'.toNat)
    else if 'a' ≤ c ∧ c ≤ 'f' then some (c.toNat - 'a'.toNat + 10)
    else if 'A' ≤ c ∧ c ≤ 'F' then some (c.toNat - 'A'.toNat + 10)
    else none
  let step (value : Option Nat) (c : Char) : Option Nat := do
    let n ← value
    let d ← digit c
    if d < base then some (base * n + d) else none
  if digits.isEmpty then none else digits.foldl step (some 0)

/-- Whether an integer fits 128 bits, signed when negative. -/
def fits128 (n : Int) : Bool :=
  -0x80000000000000000000000000000000 ≤ n && n < 0x100000000000000000000000000000000

/-- A text cut after its leading decimal digits. -/
def spanDigits (s : List Char) : List Char × List Char :=
  (s.takeWhile Char.isDigit, s.dropWhile Char.isDigit)

/-- The exponent at the end of a numeral: nothing, or a mark, an optional sign
and at least one digit. -/
def exponentPart? : List Char → Option Int
  | [] => some 0
  | mark :: rest =>
    if mark == 'e' || mark == 'E' then
      let (negative, digits) := match rest with
        | '-' :: t => (true, t)
        | '+' :: t => (false, t)
        | t => (false, t)
      if digits.isEmpty || !digits.all Char.isDigit then none
      else some (if negative then -(digitsValue digits : Int) else digitsValue digits)
    else none

/-- The digits and the decimal exponent of an unsigned numeral. -/
def numeral? (s : List Char) : Option (Nat × Int) :=
  let (whole, afterWhole) := spanDigits s
  let (fraction, tail) := match afterWhole with
    | '.' :: t => spanDigits t
    | t => ([], t)
  if whole.isEmpty && fraction.isEmpty then none
  else do
    let exponent ← exponentPart? tail
    return (digitsValue (whole ++ fraction), exponent - fraction.length)

namespace Binary64

/-- The number that a whole text denotes. -/
def read? (s : List Char) : Option Binary64 :=
  let (negative, rest) := match s with
    | '-' :: t => (true, t)
    | '+' :: t => (false, t)
    | t => (false, t)
  let word := rest.map Char.toLower
  if word = "inf".toList ∨ word = "infinity".toList then some (.infinite negative)
  else if word = "nan".toList then some .nan
  else (numeral? rest).map fun (digits, exponent) => ofDecimal negative digits exponent

end Binary64

end SqlTemplate
