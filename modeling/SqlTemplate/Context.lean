import SqlTemplate.Json.Write

/-!
# Names in a data context

A statement is rendered against a data context, normally an object; `null` acts
as an object without fields. A name is looked up as a field first, and only if
there is no such field as a path of segments between dots, through the fields
of objects and the positions of arrays. In the last place `length` is the
number of elements of an array or of characters of a string.

Every other context is a single element: each name denotes the element itself.
-/

namespace SqlTemplate

/-- The parts of a text between its dots; there is one more part than dots. -/
def segments : List Char → List (List Char)
  | [] => [[]]
  | c :: rest =>
    if c = '.' then [] :: segments rest
    else match segments rest with
      | [] => [[c]]
      | first :: more => (c :: first) :: more

/-- The position that a segment denotes: decimal digits, after an optional plus sign. -/
def position? (segment : List Char) : Option Nat :=
  let digits := match segment with
    | '+' :: rest => rest
    | s => s
  if digits.isEmpty || !digits.all Char.isDigit then none else some (digitsValue digits)

namespace Value

/-- The segment that asks for a length. -/
def lengthSegment : List Char := ['l', 'e', 'n', 'g', 't', 'h']

/-- The value at the end of a path of segments. -/
def walk : Value → List (List Char) → Option Value
  | v, [] => some v
  | v, segment :: rest =>
    if segment.isEmpty then none
    else match v with
      | .object fields =>
        match Entries.find? (String.ofList segment) fields with
        | some field => walk field rest
        | none => none
      | .array items =>
        if segment = lengthSegment ∧ rest = [] then some (ofCount items.length)
        else match position? segment with
          | some i =>
            match items[i]? with
            | some item => walk item rest
            | none => none
          | none => none
      | .string s =>
        if segment = lengthSegment ∧ rest = [] then some (ofCount s.length) else none
      | _ => none

/-- What a name denotes in a context; `none` when it is absent. -/
def lookup (context : Value) (name : String) : Option Value :=
  match context with
  | .null => none
  | .object fields =>
    match Entries.find? name fields with
    | some v => some v
    | none => if '.' ∈ name.toList then walk context (segments name.toList) else none
  | element => some element

/-- What a name denotes in a context, `null` when it is absent. -/
def lookupOrNull (context : Value) (name : String) : Value :=
  (context.lookup name).getD .null

/-! ## Text of a value inside a statement -/

/-- Numbers inside a statement are positional, and whole numbers have no point. -/
def plainLayout : Layout where
  ties := .up
  positional := none
  pointZero := false
  plusSign := false
  infinite := "inf"
  nan := "NaN"

/-- The text of a number inside a statement; neither zero has a sign. -/
def displayNumber : Number → String
  | .integer n _ => intText n
  | .float x => if x.isZero then "0" else plainLayout.finiteText x

mutual

/-- The text of a value inside a statement: nothing for `null`, a string as it
is, the elements of an array between commas, an object as compact JSON. -/
def display : Value → String
  | .null => ""
  | .bool b => if b then "true" else "false"
  | .number n => displayNumber n
  | .string s => s
  | .array items => displayItems items
  | .object fields => Json.compact (.object fields)

/-- The texts of the elements, with commas between them. -/
def displayItems : List Value → String
  | [] => ""
  | [item] => display item
  | item :: rest => display item ++ "," ++ displayItems rest

end

/-! ## Truth -/

/-- Whether a value counts as true: `null`, `false`, zero and the empty string,
array and object do not. -/
def isTruthy : Value → Bool
  | .null => false
  | .bool b => b
  | .number n => !n.toBinary64.isZeroOrNan
  | .string s => !s.isEmpty
  | .array items => !items.isEmpty
  | .object fields => !fields.isEmpty

end Value

end SqlTemplate
