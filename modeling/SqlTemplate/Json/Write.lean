import SqlTemplate.Numeric.Numeral
import SqlTemplate.Numeric.Shortest
import SqlTemplate.Value

/-!
# Writing JSON

Two forms of the same text: the compact one, with nothing between the parts,
and the indented one, with each item and field on a line of its own. Fields
appear in the order in which the object lists them.
-/

namespace SqlTemplate.Json

/-- Numbers from `0.00001` up to below `10 ^ 16` are positional and keep `.0`; all
others have an exponent with its sign. -/
def layout : Layout where
  ties := .even
  positional := some (-5, 16)
  pointZero := true
  plusSign := true
  infinite := "null"
  nan := "null"

/-- The text of a number. -/
def numberText : Number → String
  | .integer n _ => intText n
  | .float x => layout.finiteText x

/-- Four hexadecimal digits of a control character. -/
def controlEscape (c : Char) : List Char :=
  let digits := Nat.toDigits 16 c.toNat
  ['\\', 'u'] ++ List.replicate (4 - digits.length) '0' ++ digits

/-- How one character is written in a string. -/
def escapeChar (c : Char) : List Char :=
  match c with
  | '"' => ['\\', '"']
  | '\\' => ['\\', '\\']
  | '\x08' => ['\\', 'b']
  | '\x0c' => ['\\', 'f']
  | '\n' => ['\\', 'n']
  | '\r' => ['\\', 'r']
  | '\t' => ['\\', 't']
  | c => if c.toNat < 0x20 then controlEscape c else [c]

/-- A text as a JSON string. -/
def stringText (s : String) : String :=
  String.ofList ('"' :: s.toList.flatMap escapeChar ++ ['"'])

mutual

/-- The compact text of a value. -/
def compact : Value → String
  | .null => "null"
  | .bool b => if b then "true" else "false"
  | .number n => numberText n
  | .string s => stringText s
  | .array items => "[" ++ compactItems items ++ "]"
  | .object fields => "\x7b" ++ compactFields fields ++ "\x7d"

/-- The items of an array, with commas between them. -/
def compactItems : List Value → String
  | [] => ""
  | [item] => compact item
  | item :: rest => compact item ++ "," ++ compactItems rest

/-- The fields of an object, with commas between them. -/
def compactFields : List (String × Value) → String
  | [] => ""
  | [(key, value)] => stringText key ++ ":" ++ compact value
  | (key, value) :: rest => stringText key ++ ":" ++ compact value ++ "," ++ compactFields rest

end

/-- A line break followed by two spaces for each level. -/
def newline (level : Nat) : String := "\n" ++ String.ofList (List.replicate (2 * level) ' ')

mutual

/-- The indented text of a value that stands at a level. -/
def indented (level : Nat) : Value → String
  | .array [] => "[]"
  | .object [] => "\x7b\x7d"
  | .array (item :: rest) =>
    "[" ++ indentedItems (level + 1) (item :: rest) ++ newline level ++ "]"
  | .object (field :: rest) =>
    "\x7b" ++ indentedFields (level + 1) (field :: rest) ++ newline level ++ "\x7d"
  | .null => "null"
  | .bool b => if b then "true" else "false"
  | .number n => numberText n
  | .string s => stringText s

/-- The items of an array, each on a line at the level. -/
def indentedItems (level : Nat) : List Value → String
  | [] => ""
  | [item] => newline level ++ indented level item
  | item :: rest => newline level ++ indented level item ++ "," ++ indentedItems level rest

/-- The fields of an object, each on a line at the level. -/
def indentedFields (level : Nat) : List (String × Value) → String
  | [] => ""
  | [(key, value)] => newline level ++ stringText key ++ ": " ++ indented level value
  | (key, value) :: rest =>
    newline level ++ stringText key ++ ": " ++ indented level value ++ "," ++
      indentedFields level rest

end

/-- The indented text of a whole document. -/
def pretty (value : Value) : String := indented 0 value

end SqlTemplate.Json
