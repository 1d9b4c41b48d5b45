import SqlTemplate.Numeric.Numeral
import SqlTemplate.Toml.Value

/-!
# TOML scalars

Strings stand in single or double quotes; backslashes escape only within double
ones. Three quotes open a string that may go over several lines. Numbers may group
their digits with single underscores. A date may be followed by a time, and a time
by its offset.
-/

namespace SqlTemplate.Toml

/-! ## Strings -/

/-- A character that may stand in strings and comments: no control character but tab. -/
def isPrintable (c : Char) : Bool := c == '\t' || (0x20 ≤ c.toNat && c.toNat != 0x7F)

/-- The character with a code; the codes of surrogates have none. -/
def charOfCode? (code : Nat) : Option Char :=
  if code.isValidChar then some (Char.ofNat code) else none

/-- The character that hexadecimal digits denote, and the length of its escape. -/
def hexEscape? (count : Nat) (s : List Char) : Option (Char × Nat) := do
  let digits := s.take count
  if digits.length < count then none
  else
    let c ← charOfCode? (← baseValue? 16 digits)
    return (c, count + 1)

/-- The character that an escape stands for, and how many characters it takes after the
backslash. -/
def escape? : List Char → Option (Char × Nat)
  | 'b' :: _ => some ('\x08', 1)
  | 't' :: _ => some ('\t', 1)
  | 'n' :: _ => some ('\n', 1)
  | 'f' :: _ => some ('\x0c', 1)
  | 'r' :: _ => some ('\r', 1)
  | 'e' :: _ => some ('\x1b', 1)
  | '"' :: _ => some ('"', 1)
  | '\\' :: _ => some ('\\', 1)
  | 'x' :: rest => hexEscape? 2 rest
  | 'u' :: rest => hexEscape? 4 rest
  | 'U' :: rest => hexEscape? 8 rest
  | _ => none

/-- Reads a string on one line up to its closing quote. The first `skip` characters belong
to an escape already read; `read` holds, in reverse, what came before. -/
def readLineString? (quote : Char) :
    (skip : Nat) → (read : List Char) → List Char → Option (String × List Char)
  | _, _, [] => none
  | skip + 1, read, _ :: rest => readLineString? quote skip read rest
  | 0, read, c :: rest =>
    if c == quote then some (String.ofList read.reverse, rest)
    else if c == '\\' && quote == '"' then
      match escape? rest with
      | some (escaped, length) => readLineString? quote length (escaped :: read) rest
      | none => none
    else if isPrintable c then readLineString? quote 0 (c :: read) rest
    else none

/-- Whether a line ends here, but for blanks. -/
def atLineEnd (s : List Char) : Bool :=
  match s.dropWhile fun c => c == ' ' || c == '\t' with
  | '\n' :: _ => true
  | '\r' :: '\n' :: _ => true
  | _ => false

/-- What the reading of a string over several lines does next. -/
inductive BlockStep where
  /-- Leaves out so many characters, then goes on. -/
  | skip (count : Nat)
  /-- Leaves out the gap after a backslash at the end of a line. -/
  | join

/-- Reads a string over several lines up to its three closing quotes, before which two
more may stand. A line feed stands for the end of a line however it is spelled. -/
def readBlockString? (quote : Char) :
    BlockStep → (read : List Char) → List Char → Option (String × List Char)
  | _, _, [] => none
  | .skip (count + 1), read, _ :: rest => readBlockString? quote (.skip count) read rest
  | .skip 0, read, c :: rest =>
    let run := ((c :: rest).takeWhile (· == quote)).length
    if 3 ≤ run then
      let kept := min (run - 3) 2
      some (String.ofList (List.replicate kept quote ++ read).reverse, rest.drop (kept + 2))
    else if c == '\\' && quote == '"' then
      if atLineEnd rest then readBlockString? quote .join read rest
      else
        match escape? rest with
        | some (escaped, length) => readBlockString? quote (.skip length) (escaped :: read) rest
        | none => none
    else if c == '\r' && rest.head? == some '\n' then readBlockString? quote (.skip 0) read rest
    else if c == '\n' || isPrintable c then readBlockString? quote (.skip 0) (c :: read) rest
    else none
  | .join, read, c :: rest =>
    if c == ' ' || c == '\t' || c == '\n' || (c == '\r' && rest.head? == some '\n') then
      readBlockString? quote .join read rest
    else readBlockString? quote (.skip 0) read (c :: rest)
termination_by step _ s => (s.length, match step with | .skip _ => 0 | .join => 1)

/-- Reads the string that opens at the head of a text. -/
def readString? (quote : Char) (s : List Char) : Option (String × List Char) :=
  match s with
  | a :: b :: c :: rest =>
    if a == quote && b == quote && c == quote then
      match rest with
      | '\n' :: rest => readBlockString? quote (.skip 0) [] rest
      | '\r' :: '\n' :: rest => readBlockString? quote (.skip 0) [] rest
      | rest => readBlockString? quote (.skip 0) [] rest
    else if a == quote then readLineString? quote 0 [] (b :: c :: rest)
    else none
  | a :: rest => if a == quote then readLineString? quote 0 [] rest else none
  | [] => none

/-! ## Numbers -/

/-- Digits without the single underscores between them; `none` if anything else is there. -/
def ungrouped? (isDigit : Char → Bool) : List Char → Option (List Char)
  | [] => none
  | [c] => if isDigit c then some [c] else none
  | c :: '_' :: rest =>
    if isDigit c then (ungrouped? isDigit rest).map (c :: ·) else none
  | c :: rest => if isDigit c then (ungrouped? isDigit rest).map (c :: ·) else none

/-- A text cut behind an optional sign. -/
def signed (s : List Char) : Bool × List Char :=
  match s with
  | '-' :: rest => (true, rest)
  | '+' :: rest => (false, rest)
  | rest => (false, rest)

/-- Digits that do not begin with a superfluous zero. -/
def wholePart? (s : List Char) : Option (List Char) :=
  match ungrouped? Char.isDigit s with
  | some ('0' :: _ :: _) => none
  | digits => digits

/-- The integer that digits in a base denote. -/
def basedInteger? (base : Nat) (s : List Char) : Option Int := do
  let digits ← ungrouped? (fun c => (baseValue? base [c]).isSome) s
  return ((← baseValue? base digits : Nat) : Int)

/-- The integer that a text denotes. -/
def integer? (s : List Char) : Option Int :=
  match s with
  | '0' :: 'x' :: digits => basedInteger? 16 digits
  | '0' :: 'o' :: digits => basedInteger? 8 digits
  | '0' :: 'b' :: digits => basedInteger? 2 digits
  | s =>
    let (negative, digits) := signed s
    (wholePart? digits).map fun digits =>
      if negative then -(digitsValue digits : Int) else digitsValue digits

/-- A character of a group of digits. -/
def isDigitPart (c : Char) : Bool := c.isDigit || c == '_'

/-- The digits after the point of a float, if there is one, and what follows them. -/
def fraction? : List Char → Option (List Char × List Char)
  | '.' :: rest =>
    (ungrouped? Char.isDigit (rest.takeWhile isDigitPart)).map
      fun digits => (digits, rest.dropWhile isDigitPart)
  | rest => some ([], rest)

/-- The exponent of a float after its mark; `none` where there is no mark. -/
def exponent? : List Char → Option Int
  | mark :: rest =>
    if mark == 'e' || mark == 'E' then
      let (negative, digits) := signed rest
      (ungrouped? Char.isDigit digits).map fun digits =>
        if negative then -(digitsValue digits : Int) else digitsValue digits
    else none
  | [] => none

/-- The decimal numeral that a text denotes: its digits and its exponent. It has a point,
an exponent, or both. -/
def decimal? (s : List Char) : Option (Nat × Int) := do
  let whole ← wholePart? (s.takeWhile isDigitPart)
  let (fraction, tail) ← fraction? (s.dropWhile isDigitPart)
  let exponent ←
    if tail.isEmpty && !fraction.isEmpty then some 0 else exponent? tail
  return (digitsValue (whole ++ fraction), exponent - fraction.length)

/-- The float that a text denotes; one too large for the format is refused. -/
def float? (s : List Char) : Option Binary64 :=
  let (negative, magnitude) := signed s
  if magnitude = "inf".toList then some (.infinite negative)
  else if magnitude = "nan".toList then some .nan
  else do
    let (digits, exponent) ← decimal? magnitude
    let x ← (Binary64.ofDecimal negative digits exponent).finite?
    return .finite x

/-! ## Dates and times -/

/-- The number that exactly so many digits denote, and the rest. -/
def fixedDigits? (count : Nat) (s : List Char) : Option (Nat × List Char) :=
  let digits := s.take count
  if digits.length = count && digits.all Char.isDigit then some (digitsValue digits, s.drop count)
  else none

/-- The number of days of a month. -/
def daysOf (year month : Nat) : Nat :=
  if month = 2 then
    if year % 4 = 0 && (year % 100 != 0 || year % 400 = 0) then 29 else 28
  else if month = 4 || month = 6 || month = 9 || month = 11 then 30
  else 31

/-- What follows a date. -/
def afterDate? (s : List Char) : Option (List Char) := do
  let (year, s) ← fixedDigits? 4 s
  let '-' :: s := s | none
  let (month, s) ← fixedDigits? 2 s
  let '-' :: s := s | none
  let (day, s) ← fixedDigits? 2 s
  if 1 ≤ month && month ≤ 12 && 1 ≤ day && day ≤ daysOf year month then some s else none

/-- What follows hours and minutes. -/
def afterHours? (s : List Char) : Option (List Char) := do
  let (hour, s) ← fixedDigits? 2 s
  let ':' :: s := s | none
  let (minute, s) ← fixedDigits? 2 s
  if hour ≤ 23 && minute ≤ 59 then some s else none

/-- What follows a time of day. -/
def afterTime? (s : List Char) : Option (List Char) := do
  match ← afterHours? s with
  | ':' :: s =>
    let (second, s) ← fixedDigits? 2 s
    if 60 < second then none
    else
      match s with
      | '.' :: fraction =>
        let (digits, s) := spanDigits fraction
        if digits.isEmpty then none else some s
      | s => some s
  | s => some s

/-- Whether a text is an offset from universal time, or nothing. -/
def isOffset : List Char → Bool
  | [] => true
  | ['Z'] => true
  | ['z'] => true
  | '+' :: s => afterHours? s == some []
  | '-' :: s => afterHours? s == some []
  | _ => false

/-- Whether a text is a date, a time, or both. -/
def isDateTime (s : List Char) : Bool :=
  match afterDate? s with
  | some [] => true
  | some (mark :: s) =>
    (mark == 'T' || mark == 't' || mark == ' ') &&
      match afterTime? s with
      | some tail => isOffset tail
      | none => false
  | none => afterTime? s == some []

/-! ## Words -/

/-- The characters of numbers, dates and the names of truth values. -/
def isScalarChar (c : Char) : Bool :=
  c.isAlphanum || c == '+' || c == '-' || c == '.' || c == '_' || c == ':'

/-- The length of the unquoted scalar at the head of a text. A date takes the time that
follows it after one space. -/
def scalarLength (s : List Char) : Nat :=
  let first := s.takeWhile isScalarChar
  match s.drop first.length with
  | ' ' :: c :: rest =>
    if c.isDigit && (afterDate? first) == some [] then
      first.length + 1 + ((c :: rest).takeWhile isScalarChar).length
    else first.length
  | _ => first.length

/-- The value that an unquoted scalar denotes. Integers have at most 128 bits. -/
def scalar? (s : List Char) : Option Value :=
  if s = "true".toList then some (.boolean true)
  else if s = "false".toList then some (.boolean false)
  else
    match integer? s with
    | some n => if fits128 n then some (.integer n) else none
    | none =>
      match float? s with
      | some x => some (.float x)
      | none => if isDateTime s then some (.dateTime (String.ofList s)) else none

end SqlTemplate.Toml
