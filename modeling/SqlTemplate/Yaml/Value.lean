import SqlTemplate.Numeric.Numeral
import SqlTemplate.Numeric.Shortest
import SqlTemplate.Yaml.Node

/-!
# YAML values

A document denotes a value: plain scalars are read as `null`, truth values and
numbers where they have that form, local tags wrap what they stand on, and an
alias denotes the value of the node it refers to. Collections nest at most
`maxNesting` levels deep, aliases included, so a node that contains itself has
no value. A mapping lists its entries in the order of the document and has no
two equal keys.
-/

namespace SqlTemplate.Yaml

/-- A number of a YAML text. -/
inductive Number where
  | integer (n : Int)
  | float (x : Binary64)
deriving DecidableEq

/-- A YAML value. -/
inductive Value where
  | null
  | bool (b : Bool)
  | number (n : Number)
  | string (s : String)
  | sequence (items : List Value)
  | mapping (entries : List (Value × Value))
  | tagged (tag : String) (content : Value)
deriving Inhabited

/-- Numbers from `0.00001` up to below `10 ^ 16` are positional and keep `.0`; a
positive exponent has no sign. -/
def layout : Layout where
  ties := .even
  positional := some (-5, 16)
  pointZero := true
  plusSign := false
  infinite := ".inf"
  nan := ".nan"

/-- The text of a number. -/
def Number.text : Number → String
  | .integer n => intText n
  | .float x => layout.text x

/-- Equality of numbers as data: what is not a number equals itself. -/
def Number.same : Number → Number → Bool
  | .integer a, .integer b => a == b
  | .float x, .float y => x.equals y || (x == .nan && y == .nan)
  | _, _ => false

/-- A tag without an exclamation mark in front. -/
def bareTag (tag : String) : List Char :=
  match tag.toList with
  | '!' :: rest => rest
  | chars => chars

namespace Value

mutual

/-- Equality as data; the order of a mapping's entries does not matter. -/
def same : Value → Value → Bool
  | .null, .null => true
  | .bool a, .bool b => a == b
  | .number a, .number b => a.same b
  | .string a, .string b => a == b
  | .sequence xs, .sequence ys => sameItems xs ys
  | .mapping xs, .mapping ys => xs.length == ys.length && hasEntries ys xs
  | .tagged s x, .tagged t y => bareTag s == bareTag t && same x y
  | _, _ => false

/-- Equality of two lists of values, element by element. -/
def sameItems : List Value → List Value → Bool
  | [], [] => true
  | x :: xs, y :: ys => same x y && sameItems xs ys
  | _, _ => false

/-- Whether each of the given entries is among `ys`. -/
def hasEntries (ys : List (Value × Value)) : List (Value × Value) → Bool
  | [] => true
  | (k, x) :: rest => ys.any (fun (l, y) => same k l && same x y) && hasEntries ys rest

end

/-- The value of the field with a text key. -/
def field? (name : String) (entries : List (Value × Value)) : Option Value :=
  match entries with
  | [] => none
  | (.string key, value) :: rest => if key = name then some value else field? name rest
  | _ :: rest => field? name rest

end Value

/-! ## Plain scalars -/

/-- A text without a plus sign in front. -/
def withoutPlus : List Char → List Char
  | '+' :: rest => rest
  | s => s

/-- Whether a sign, if any, is followed by a zero and further digits only: such a
text is no number. -/
def isPaddedDigits (s : List Char) : Bool :=
  let digits := match s with
    | '-' :: rest => rest
    | s => withoutPlus s
  match digits with
  | '0' :: d :: rest => (d :: rest).all Char.isDigit
  | _ => false

/-- The natural number that digits behind a base mark, or plain digits, denote. -/
def natural? (s : List Char) : Option Nat :=
  match s with
  | '0' :: 'x' :: rest => baseValue? 16 rest
  | '0' :: 'o' :: rest => baseValue? 8 rest
  | '0' :: 'b' :: rest => baseValue? 2 rest
  | s => if isPaddedDigits s then none else baseValue? 10 s

/-- The integer that a text denotes. -/
def integer? : List Char → Option Int
  | '-' :: rest => (natural? rest).map fun n => -(n : Int)
  | s => (natural? (withoutPlus s)).map fun n => (n : Int)

/-- The number that a text with a point or an exponent, or one of the special
words, denotes. Texts too large for the format denote none. -/
def float? (s : List Char) : Option Binary64 :=
  let bare := withoutPlus s
  let word (w : String) : Bool := bare == w.toList
  if bare != s && (bare.head? == some '+' || bare.head? == some '-') then none
  else if word ".inf" || word ".Inf" || word ".INF" then some (.infinite false)
  else if word "-.inf" || word "-.Inf" || word "-.INF" then some (.infinite true)
  else if s == ".nan".toList || s == ".NaN".toList || s == ".NAN".toList then some .nan
  else match Binary64.read? bare with
    | some (.finite x) => some (.finite x)
    | _ => none

/-- The truth value that a text denotes. -/
def bool? (s : String) : Option Bool :=
  if ["true", "True", "TRUE"].contains s then some true
  else if ["false", "False", "FALSE"].contains s then some false
  else none

/-- Whether a text that is not empty denotes `null`. -/
def isNullWord (s : String) : Bool := ["null", "Null", "NULL", "~"].contains s

/-- The value of an integer. One beyond 64 bits has none, unless it does not even
fit 128 bits: then it is no integer. -/
inductive IntegerReading where
  | none
  | tooLarge
  | some (n : Int)

/-- Reads a text as an integer. -/
def readInteger (s : List Char) : IntegerReading :=
  match integer? s with
  | .none => .none
  | .some n =>
    if -0x8000000000000000 ≤ n ∧ n < 0x10000000000000000 then .some n
    else if fits128 n then .tooLarge
    else .none

/-- The value of a plain scalar without a tag. -/
def plainValue? (text : String) : Option Value :=
  let s := text.toList
  if text.isEmpty || isNullWord text then some .null
  else match bool? text with
    | some b => some (.bool b)
    | none =>
      match readInteger s with
      | .some n => some (.number (.integer n))
      | .tooLarge => none
      | .none =>
        match if isPaddedDigits s then none else float? s with
        | some x => some (.number (.float x))
        | none => some (.string text)

/-- The value of a scalar. A tag of the core schema demands its kind; a scalar with
another tag is a text, as is one that is not plain. -/
def scalarValue? (tag : Option String) (text : String) (plain : Bool) : Option Value :=
  match tag with
  | some "tag:yaml.org,2002:bool" => (bool? text).map .bool
  | some "tag:yaml.org,2002:int" =>
    match readInteger text.toList with
    | .some n => some (.number (.integer n))
    | _ => none
  | some "tag:yaml.org,2002:float" => (float? text.toList).map fun x => .number (.float x)
  | some "tag:yaml.org,2002:null" => if isNullWord text then some .null else none
  | some _ => some (.string text)
  | none => if plain then plainValue? text else some (.string text)

/-! ## Documents -/

/-- The name of a local tag, one that begins with an exclamation mark. -/
def localTag? : Option String → Option String
  | some tag =>
    match tag.toList with
    | '!' :: name => some (String.ofList name)
    | _ => none
  | none => none

/-- How deep collections may nest. -/
def maxNesting : Nat := 128

/-- What the aliases of a document refer to, and how often they may be followed. -/
structure Anchors where
  nodes : List (Nat × Node)
  maxFollowed : Nat

/-- The node with a number: of several the last. -/
def Anchors.node? (a : Anchors) (number : Nat) : Option Node :=
  (a.nodes.reverse.lookup number)

/-- Builds values; the state counts the aliases followed so far. -/
abbrev Builder := StateT Nat Option

/-- Follows an alias, counting it. -/
def Anchors.follow (a : Anchors) (number : Nat) : Builder Node := do
  let followed ← get
  if a.maxFollowed ≤ followed then failure
  set (followed + 1)
  match a.node? number with
  | some node => return node
  | none => failure

/-- A value under the tag of its node, if that is a local one. The tag must have a name. -/
def wrapTagged (ignoreTag : Bool) (tag : Option String) (content : Value) : Option Value :=
  match if ignoreTag then none else localTag? tag with
  | none => some content
  | some name => if name.isEmpty then none else some (.tagged name content)

/-- Whether the node's own tag makes a tagged value. -/
def isWrapped (ignoreTag : Bool) (tag : Option String) : Bool :=
  !ignoreTag && (localTag? tag).isSome

/-- Builds the entries of a mapping, whose keys must differ. Keys ignore their
tags where `ignoreTag` says so. -/
def buildEntries (build : (ignoreTag : Bool) → Node → Builder Value) (ignoreTag : Bool) :
    (read : List (Value × Value)) → List (Node × Node) → Builder (List (Value × Value))
  | read, [] => return read.reverse
  | read, (key, value) :: rest => do
    let k ← build ignoreTag key
    if read.any fun entry => entry.1.same k then failure
    let v ← build false value
    buildEntries build ignoreTag ((k, v) :: read) rest

/-- Builds the value of a node, in which collections nest at most so many levels.
Under a local tag, and in the keys of a mapping under one, tags are ignored. -/
def buildValue (a : Anchors) : (levels : Nat) → (ignoreTag : Bool) → Node → Builder Value
  | levels, ignoreTag, node => do
    let (ignoreTag, node) ← match node with
      | .alias number => (false, ·) <$> a.follow number
      | node => pure (ignoreTag, node)
    match node with
    | .alias _ => failure
    | .scalar properties text plain =>
      let tagIgnored := ignoreTag || isWrapped ignoreTag properties.tag
      let content ← scalarValue? (if tagIgnored then none else properties.tag) text plain
      wrapTagged ignoreTag properties.tag content
    | .sequence properties items =>
      match levels with
      | 0 => failure
      | levels + 1 =>
        let values ← items.mapM (buildValue a levels false)
        wrapTagged ignoreTag properties.tag (.sequence values)
    | .mapping properties entries =>
      match levels with
      | 0 => failure
      | levels + 1 =>
        let inner := ignoreTag || isWrapped ignoreTag properties.tag
        let built ← buildEntries (buildValue a levels) inner [] entries
        wrapTagged ignoreTag properties.tag (.mapping built)

/-- The value of a text; one without a document is `null`. -/
def read? (source : String) : Option Value := do
  let ts ← tokens? source
  match ← document? ts with
  | none => return .null
  | some node =>
    let anchors : Anchors := ⟨node.anchored, 100 * node.size⟩
    let (value, _) ← (buildValue anchors maxNesting false node).run 0
    return value

end SqlTemplate.Yaml
