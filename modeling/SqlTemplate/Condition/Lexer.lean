import SqlTemplate.Condition.Token
import SqlTemplate.Placeholder

/-!
# Reading the tokens of a condition

Blanks separate tokens and are otherwise ignored. At each other character
exactly one kind of token can begin, and it takes as many characters as it can.
-/

namespace SqlTemplate.Condition

open SqlTemplate.Text
open SqlTemplate.Placeholder (isNameChar nameOf)

/-- A character that can begin a bare name. -/
def isBareStart (c : Char) : Bool := c.isAlpha || c == '_' || c == '$'

/-- A character that can stand in a bare name. -/
def isBareChar (c : Char) : Bool := isNameChar c || c == '$'

/-- The character that a backslash and `c` stand for. -/
def unescape : Char → Char
  | 'n' => '\n'
  | 't' => '\t'
  | 'r' => '\r'
  | '0' => '\x00'
  | c => c

/-- The content of a string after its opening quote, and the number of
characters up to and including the closing one; `none` when there is none. -/
def stringBody (quote : Char) : List Char → Option (List Char × Nat)
  | [] => none
  | ['\\'] => none
  | '\\' :: c :: rest => (stringBody quote rest).map fun (s, n) => (unescape c :: s, n + 2)
  | c :: rest =>
    if c = quote then some ([], 1)
    else (stringBody quote rest).map fun (s, n) => (c :: s, n + 1)

/-- The token of a whole bare word. -/
def wordToken (word : List Char) : Token :=
  if word = ['t', 'r', 'u', 'e'] then .bool true
  else if word = ['f', 'a', 'l', 's', 'e'] then .bool false
  else if word = ['n', 'u', 'l', 'l'] then .null
  else if word = ['u', 'n', 'd', 'e', 'f', 'i', 'n', 'e', 'd'] then .null
  else .name (String.ofList word)

/-- The digits, point and further digits at the head of a text. -/
def numeralParts (s : List Char) : List Char × Option (List Char) :=
  (s.takeWhile Char.isDigit,
    match s.dropWhile Char.isDigit with
    | '.' :: rest => some (rest.takeWhile Char.isDigit)
    | _ => none)

/-- A number without its sign: the token and its length. -/
def numberToken (negative : Bool) (s : List Char) : Except Fault (Token × Nat) :=
  let sign := if negative then ['-'] else []
  match numeralParts s with
  | (whole, none) => .ok (.number (.ofDecimal negative (digitsValue whole) 0), whole.length)
  | (whole, some fraction) =>
    if whole.isEmpty && fraction.isEmpty then
      .error (.invalidNumber (String.ofList (sign ++ ['.'])))
    else
      .ok (.number (.ofDecimal negative (digitsValue (whole ++ fraction)) (-(fraction.length : Int))),
        whole.length + 1 + fraction.length)

/-- Whether digits, or a point, stand at the head of a text. -/
def startsNumeral : List Char → Bool
  | c :: _ => c.isDigit || c == '.'
  | [] => false

/-- The token that begins with `c` at an offset, and how many characters it takes
from `rest`. -/
def tokenAt (offset : Nat) (c : Char) (rest : List Char) : Except Fault (Token × Nat) :=
  let stray : Except Fault (Token × Nat) := .error (.unexpectedChar c offset)
  match c, rest with
  | ':', ':' :: rest => .error (.literalSubstitution (String.ofList (nameOf rest)))
  | ':', rest =>
    if (nameOf rest).isEmpty then stray
    else .ok (.bound (String.ofList (nameOf rest)), (nameOf rest).length)
  | '(', _ => .ok (.opening, 0)
  | ')', _ => .ok (.closing, 0)
  | '!', '=' :: '=' :: _ => .ok (.comparison .strictlyNotEqual, 2)
  | '!', '=' :: _ => .ok (.comparison .notEqual, 1)
  | '!', _ => .ok (.negation, 0)
  | '=', '=' :: '=' :: _ => .ok (.comparison .strictlyEqual, 2)
  | '=', '=' :: _ => .ok (.comparison .equal, 1)
  | '<', '=' :: _ => .ok (.comparison .lessOrEqual, 1)
  | '<', _ => .ok (.comparison .less, 0)
  | '>', '=' :: _ => .ok (.comparison .greaterOrEqual, 1)
  | '>', _ => .ok (.comparison .greater, 0)
  | '&', '&' :: _ => .ok (.conjunction, 1)
  | '|', '|' :: _ => .ok (.disjunction, 1)
  | '-', rest => if startsNumeral rest then numberToken true rest else stray
  | c, rest =>
    if c = '\'' ∨ c = '"' then
      match stringBody c rest with
      | some (s, n) => .ok (.string (String.ofList s), n)
      | none => .error (.unterminatedString offset)
    else if c.isDigit then
      (numberToken false (c :: rest)).map fun (token, n) => (token, n - 1)
    else if isBareStart c then
      let word := c :: rest.takeWhile isBareChar
      .ok (wordToken word, word.length - 1)
    else stray

/-- The tokens of a text that begins at an offset and of which the first `skip`
characters belong to a token already read. -/
def tokensFrom : (skip offset : Nat) → List Char → Except Fault (List Token)
  | _, _, [] => .ok []
  | skip + 1, offset, _ :: rest => tokensFrom skip (offset + 1) rest
  | 0, offset, c :: rest =>
    if isBlank c then tokensFrom 0 (offset + 1) rest
    else match tokenAt offset c rest with
      | .error fault => .error fault
      | .ok (token, n) =>
        match tokensFrom n (offset + 1) rest with
        | .error fault => .error fault
        | .ok tokens => .ok (token :: tokens)

/-- The tokens of a condition. -/
def tokens (source : String) : Except Fault (List Token) := tokensFrom 0 0 source.toList

end SqlTemplate.Condition
