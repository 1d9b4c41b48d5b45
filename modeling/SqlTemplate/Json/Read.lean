import SqlTemplate.Numeric.Numeral
import SqlTemplate.Value

/-!
# Reading JSON

A document is one value between blanks. Arrays and objects nest at most
`maxNesting` levels deep. Of two fields with one key the later counts, and an
object's fields are kept in key order.

An integer literal that fits 64 bits is an integer; every other number is a
binary64 number, made from its first digits — as many as fit 64 bits — by one
multiplication or division by a power of ten. That is one rounding more than
the nearest number would take, so the last bit may differ from the nearest one.
A number too large for the format is refused.
-/

namespace SqlTemplate.Json

/-- How many arrays and objects may stand inside one another. -/
def maxNesting : Nat := 127

/-- The characters that may stand between the parts of a document. -/
def isSpace (c : Char) : Bool := c == ' ' || c == '\t' || c == '\n' || c == '\r'

/-- The text from its first character that is not space. -/
def skipSpace (s : List Char) : List Char := s.dropWhile isSpace

/-! ## Numbers -/

/-- Appends digits to a significand while it fits 64 bits; returns it with the
number of digits left out. -/
def absorbDigits (significand : Nat) : List Char → Nat × Nat
  | [] => (significand, 0)
  | d :: rest =>
    let next := 10 * significand + (d.toNat - '0'.toNat)
    if next < 0x10000000000000000 then absorbDigits next rest else (significand, rest.length + 1)

/-- The power of ten nearest to `10 ^ k`, for `k` up to 308. -/
def powerOfTen (k : Nat) : Finite64 := ((Binary64.ofDecimal false 1 k).finite?).getD default

/-- The significand times a power of ten: one rounding for the significand, one
for each multiplication or division; `none` where the result is infinite. -/
def scaled? (negative : Bool) (significand : Nat) (exponent : Int) : Option Finite64 := do
  let start ← (Binary64.ofRatio negative significand 1).finite?
  if 0 ≤ exponent then
    if exponent ≤ 308 then (start.mul (powerOfTen exponent.toNat)).finite?
    else if start.isZero then some start
    else none
  else
    let places := (-exponent).toNat
    if places ≤ 308 then (start.div (powerOfTen places)).finite?
    else if places ≤ 616 then do
      let shifted ← (start.div (powerOfTen 308)).finite?
      (shifted.div (powerOfTen (places - 308))).finite?
    else some (.zero negative)

/-- The integer with the given sign and magnitude. A magnitude that does not fit,
and a zero with a minus sign, become binary64 numbers. -/
def integerLiteral? (negative : Bool) (magnitude : Nat) : Option Number :=
  if negative && magnitude == 0 then some (.float (.zero true))
  else
    match Number.ofInt? (if negative then -(magnitude : Int) else magnitude) with
    | some n => some n
    | none => (Binary64.ofRatio negative magnitude 1).finite?.map .float

/-- The exponent after a mark and an optional sign; at least one digit is needed. -/
def readExponent? : List Char → Option (Int × List Char)
  | [] => none
  | c :: rest =>
    let (negative, s) :=
      if c == '-' then (true, rest) else if c == '+' then (false, rest) else (false, c :: rest)
    let (digits, tail) := spanDigits s
    if digits.isEmpty then none
    else
      let value : Int := digitsValue digits
      some (if negative then -value else value, tail)

/-- The rest of a number after its integer part: `significand` with `dropped`
digits left out of it. -/
def readFraction? (negative : Bool) (significand dropped : Nat) (s : List Char) :
    Option (Number × List Char) := do
  let (significand, exponent, s) ← match s with
    | '.' :: rest =>
      let (digits, tail) := spanDigits rest
      let (longer, left) := absorbDigits significand digits
      if digits.isEmpty then none
      else some (longer, (dropped : Int) - (digits.length - left : Nat), tail)
    | _ => some (significand, (dropped : Int), s)
  let (exponent, s) ← match s with
    | c :: rest =>
      if c == 'e' || c == 'E' then
        (readExponent? rest).map fun (e, tail) => (exponent + e, tail)
      else some (exponent, s)
    | [] => some (exponent, s)
  let x ← scaled? negative significand exponent
  return (.float x, s)

/-- Reads a number without its sign. -/
def readMagnitude? (negative : Bool) (s : List Char) : Option (Number × List Char) :=
  let (digits, rest) := spanDigits s
  match digits with
  | [] => none
  | '0' :: _ :: _ => none
  | _ =>
    let (significand, dropped) := absorbDigits 0 digits
    let isFloat := 0 < dropped || match rest with
      | c :: _ => c == '.' || c == 'e' || c == 'E'
      | [] => false
    if isFloat then readFraction? negative significand dropped rest
    else (integerLiteral? negative significand).map (·, rest)

/-! ## Strings -/

/-- The code unit that four hexadecimal digits denote. -/
def unit? (a b c d : Char) : Option Nat := baseValue? 16 [a, b, c, d]

/-- The character that a letter after a backslash stands for. -/
def escape? : Char → Option Char
  | '"' => some '"'
  | '\\' => some '\\'
  | '/' => some '/'
  | 'b' => some '\x08'
  | 'f' => some '\x0c'
  | 'n' => some '\n'
  | 'r' => some '\r'
  | 't' => some '\t'
  | _ => none

/-- Reads a string after its opening quote; `read` holds, in reverse, what came
before. Two units of a surrogate pair make one character, and half a pair is
refused. -/
def readString? (read : List Char) : List Char → Option (String × List Char)
  | '"' :: rest => some (String.ofList read.reverse, rest)
  | '\\' :: 'u' :: a :: b :: c :: d :: '\\' :: 'u' :: e :: f :: g :: h :: rest => do
    let unit ← unit? a b c d
    if 0xD800 ≤ unit && unit < 0xDC00 then
      let low ← unit? e f g h
      if 0xDC00 ≤ low && low < 0xE000 then
        readString? (Char.ofNat (0x10000 + (unit - 0xD800) * 0x400 + (low - 0xDC00)) :: read) rest
      else none
    else if 0xDC00 ≤ unit && unit < 0xE000 then none
    else readString? (Char.ofNat unit :: read) ('\\' :: 'u' :: e :: f :: g :: h :: rest)
  | '\\' :: 'u' :: a :: b :: c :: d :: rest => do
    let unit ← unit? a b c d
    if 0xD800 ≤ unit && unit < 0xE000 then none
    else readString? (Char.ofNat unit :: read) rest
  | '\\' :: c :: rest => do
    let escaped ← escape? c
    readString? (escaped :: read) rest
  | c :: rest => if c.toNat < 0x20 || c == '\\' then none else readString? (c :: read) rest
  | [] => none

/-! ## Values -/

/-- Reads items up to the closing bracket. Each item takes a character at least,
so there are fewer items than characters. -/
def readItems? (item : List Char → Option (Value × List Char)) :
    Nat → List Value → List Char → Option (List Value × List Char)
  | 0, _, _ => none
  | fuel + 1, read, s => do
    let (value, rest) ← item s
    match skipSpace rest with
    | ',' :: rest => readItems? item fuel (value :: read) rest
    | ']' :: rest => some ((value :: read).reverse, rest)
    | _ => none

/-- Reads fields up to the closing brace. -/
def readFields? (item : List Char → Option (Value × List Char)) :
    Nat → List (String × Value) → List Char → Option (List (String × Value) × List Char)
  | 0, _, _ => none
  | fuel + 1, read, s => do
    let (key, rest) ← match skipSpace s with
      | '"' :: rest => readString? [] rest
      | _ => none
    let (value, rest) ← match skipSpace rest with
      | ':' :: rest => item rest
      | _ => none
    match skipSpace rest with
    | ',' :: rest => readFields? item fuel ((key, value) :: read) rest
    | '\x7d' :: rest => some (((key, value) :: read).reverse, rest)
    | _ => none

/-- Reads one value, in which arrays and objects nest at most so many levels. -/
def readValue? : Nat → List Char → Option (Value × List Char)
  | levels, s =>
    match skipSpace s with
    | 'n' :: 'u' :: 'l' :: 'l' :: rest => some (.null, rest)
    | 't' :: 'r' :: 'u' :: 'e' :: rest => some (.bool true, rest)
    | 'f' :: 'a' :: 'l' :: 's' :: 'e' :: rest => some (.bool false, rest)
    | '"' :: rest => (readString? [] rest).map fun (text, rest) => (.string text, rest)
    | '-' :: rest => (readMagnitude? true rest).map fun (n, rest) => (.number n, rest)
    | '[' :: rest =>
      match levels with
      | 0 => none
      | inner + 1 =>
        match skipSpace rest with
        | ']' :: rest => some (.array [], rest)
        | rest => (readItems? (readValue? inner) rest.length [] rest).map
            fun (items, rest) => (.array items, rest)
    | '\x7b' :: rest =>
      match levels with
      | 0 => none
      | inner + 1 =>
        match skipSpace rest with
        | '\x7d' :: rest => some (.object [], rest)
        | rest => (readFields? (readValue? inner) rest.length [] rest).map
            fun (fields, rest) => (.object (Entries.ofList fields), rest)
    | rest => (readMagnitude? false rest).map fun (n, rest) => (.number n, rest)

/-- The value of a whole document. -/
def read? (s : String) : Option Value := do
  let (value, rest) ← readValue? maxNesting s.toList
  if (skipSpace rest).isEmpty then some value else none

end SqlTemplate.Json
