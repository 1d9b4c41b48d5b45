import SqlTemplate.Context
import SqlTemplate.Text.Quoted

/-!
# Tokens of a condition

Conditions are written with literals, names, bound names such as `:name`,
comparisons, `!`, `&&`, `||` and parentheses. This module holds the tokens, the
way each is shown in a message, and the faults that reading and evaluating a
condition can meet.
-/

namespace SqlTemplate.Condition

/-- A comparison operator. -/
inductive Comparison where
  | equal
  | notEqual
  | strictlyEqual
  | strictlyNotEqual
  | less
  | lessOrEqual
  | greater
  | greaterOrEqual
deriving DecidableEq

namespace Comparison

/-- The operators that ask for an order; they bind tighter than the others. -/
def isRelational : Comparison → Bool
  | .less | .lessOrEqual | .greater | .greaterOrEqual => true
  | _ => false

/-- How the operator is written. -/
def spelling : Comparison → String
  | .equal => "=="
  | .notEqual => "!="
  | .strictlyEqual => "==="
  | .strictlyNotEqual => "!=="
  | .less => "<"
  | .lessOrEqual => "<="
  | .greater => ">"
  | .greaterOrEqual => ">="

end Comparison

/-- A token of a condition. -/
inductive Token where
  | number (x : Binary64)
  | string (s : String)
  | bool (b : Bool)
  | null
  /-- A bare name. -/
  | name (s : String)
  /-- A name after a colon. -/
  | bound (s : String)
  | opening
  | closing
  | negation
  | comparison (op : Comparison)
  | conjunction
  | disjunction
deriving DecidableEq

/-- How a token is shown in a message. -/
def Token.shown : Token → String
  | .number x => Value.plainLayout.text x
  | .string s => Text.quoted s
  | .bool b => if b then "true" else "false"
  | .null => "null"
  | .name s => s
  | .bound s => ":" ++ s
  | .opening => "("
  | .closing => ")"
  | .negation => "!"
  | .comparison op => op.spelling
  | .conjunction => "&&"
  | .disjunction => "||"

/-- What the reader of a condition could have gone on with. -/
inductive Expected where
  | value
  | closing
  | nothing
deriving DecidableEq

/-- How an expectation is put in a message. -/
def Expected.shown : Expected → String
  | .value => "a value"
  | .closing => "')'"
  | .nothing => "end of expression"

/-- The kind of a value, as far as order is concerned. -/
inductive Kind where
  | null
  | boolean
  | number
  | string
  | array
  | object
deriving DecidableEq

/-- The name of a kind. -/
def Kind.shown : Kind → String
  | .null => "null"
  | .boolean => "boolean"
  | .number => "number"
  | .string => "string"
  | .array => "array"
  | .object => "object"

/-- Why a condition has no answer. -/
inductive Fault where
  /-- There is no token at all. -/
  | empty
  /-- No token begins with this character at this offset, counted in characters. -/
  | unexpectedChar (char : Char) (offset : Nat)
  /-- The string that begins at this offset has no end. -/
  | unterminatedString (offset : Nat)
  /-- A numeral without digits. -/
  | invalidNumber (text : String)
  /-- A name after two colons. -/
  | literalSubstitution (name : String)
  | unexpected (found : Token) (expected : Expected)
  | unexpectedEnd
  /-- A bare name that the context lacks. -/
  | undefinedName (name : String)
  | incomparable (left right : Kind)
deriving DecidableEq

/-- The message of a fault. -/
def Fault.message : Fault → String
  | .empty => "empty expression"
  | .unexpectedChar char offset =>
    "unexpected character '" ++ String.ofList [char] ++ "' at offset " ++ natText offset
  | .unterminatedString offset =>
    "unterminated string literal starting at offset " ++ natText offset
  | .invalidNumber text => "invalid number literal '" ++ text ++ "'"
  | .literalSubstitution name =>
    "literal substitution `::" ++ name ++ "` is not allowed in test expressions"
  | .unexpected found expected =>
    "unexpected " ++ found.shown ++ ", expected " ++ expected.shown
  | .unexpectedEnd => "unexpected end of expression"
  | .undefinedName name => "'" ++ name ++ "' is not defined"
  | .incomparable left right => "cannot order " ++ left.shown ++ " against " ++ right.shown

end SqlTemplate.Condition
