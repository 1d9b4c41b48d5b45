import SqlTemplate.Numeric.Numeral
import SqlTemplate.Yaml.Token

/-!
# Directives, anchors and tags

The parts of a YAML text that begin with a percent sign, an ampersand, an
asterisk or an exclamation mark.
-/

namespace SqlTemplate.Yaml

/-- A character of a tag. Inside angle brackets, and in directives, the flow
indicators count too. -/
def isTagChar (verbatim : Bool) (c : Char) : Bool :=
  isWordChar c ||
    [';', '/', '?', ':', '@', '&', '=', '+', '$', '.', '!', '~', '*', '\'', '(', ')'].contains c ||
    (verbatim && (c == ',' || c == '[' || c == ']'))

/-- The byte that two hexadecimal digits after a percent sign denote. -/
def octet? : List Char → Option Nat
  | '%' :: a :: b :: _ => baseValue? 16 [a, b]
  | _ => none

/-- The number of bytes of the character whose first byte is given. -/
def octetCount? (first : Nat) : Option Nat :=
  if first < 0x80 then some 1
  else if first / 0x20 == 0x6 then some 2
  else if first / 0x10 == 0xE then some 3
  else if first / 0x08 == 0x1E then some 4
  else none

/-- The bytes of a character after its first, each written with a percent sign. -/
def trailingOctets? : (count : Nat) → (value : Nat) → List Char → Option Nat
  | 0, value, _ => some value
  | count + 1, value, s => do
    let octet ← octet? s
    if octet / 0x40 == 0x2 then trailingOctets? count (0x40 * value + octet % 0x40) (s.drop 3)
    else none

/-- The character that percent escapes spell, and the length of the escapes. -/
def percentEscape? (s : List Char) : Option (Char × Nat) := do
  let first ← octet? s
  let count ← octetCount? first
  let lead := if count == 1 then first else first % Nat.pow 2 (7 - count)
  let value ← trailingOctets? (count - 1) lead (s.drop 3)
  if h : value.isValidChar then some (Char.ofNatAux value h, 3 * count) else none

/-- The characters of a tag at the head of a text of which the first `skip`
characters have been read, with percent escapes decoded, and their length. -/
def tagChars? (verbatim : Bool) : (skip : Nat) → List Char → Option (List Char × Nat)
  | _, [] => some ([], 0)
  | skip + 1, _ :: rest => (tagChars? verbatim skip rest).map fun (s, n) => (s, n + 1)
  | 0, c :: rest =>
    if c == '%' then do
      let (read, length) ← percentEscape? (c :: rest)
      let (s, n) ← tagChars? verbatim (length - 1) rest
      return (read :: s, n + 1)
    else if isTagChar verbatim c then
      (tagChars? verbatim 0 rest).map fun (s, n) => (c :: s, n + 1)
    else some ([], 0)

/-- The handle at the head of a text: an exclamation mark, word characters, and a
second exclamation mark if there is one. -/
def handleAt (s : List Char) : List Char :=
  let word := (s.drop 1).takeWhile isWordChar
  let closing := if (s.drop (1 + word.length)).head? == some '!' then ['!'] else []
  '!' :: word ++ closing

/-- Whether a handle is closed by a second exclamation mark. -/
def isClosedHandle (handle : List Char) : Bool :=
  1 < handle.length && handle.getLast? == some '!'

/-- Reads a tag. In angle brackets it stands as it is; otherwise a handle is
followed by a suffix, and what is no closed handle belongs to the suffix after a
lone exclamation mark. -/
def Cursor.tag? (c : Cursor) (inFlow : Bool) : Option (Token × Cursor) := do
  let (token, c) ←
    if c.startsWith ['!', '<'] then do
      let inner := c.skip 2
      let (uri, length) ← tagChars? true 0 inner.rest
      let after := inner.skip length
      if uri.isEmpty || after.head? != some '>' then none
      else some (Token.tag "" (String.ofList uri), after.skip 1)
    else
      let handle := handleAt c.rest
      let after := c.skip handle.length
      do
        let (uri, length) ← tagChars? false 0 after.rest
        let after := after.skip length
        if isClosedHandle handle then
          if uri.isEmpty then none
          else some (Token.tag (String.ofList handle) (String.ofList uri), after)
        else
          let suffix := handle.drop 1 ++ uri
          if suffix.isEmpty then some (Token.tag "" "!", after)
          else some (Token.tag "!" (String.ofList suffix), after)
  if c.atGap || (inFlow && c.head? == some ',') then return (token, c) else none

/-- Reads the name of an anchor or an alias. -/
def Cursor.anchorName? (c : Cursor) : Option (String × Cursor) :=
  let (name, after) := (c.skip 1).span isWordChar
  let ends := match after.head? with
    | some ch => isGap ch || ['?', ':', ',', ']', '\x7d', '%', '@', '\x60'].contains ch
    | none => true
  if name.isEmpty || !ends then none else some (String.ofList name, after)

/-- Reads a number of a version: one to nine digits. -/
def Cursor.versionNumber? (c : Cursor) : Option (Nat × Cursor) :=
  let (digits, after) := c.span Char.isDigit
  if digits.isEmpty || 9 < digits.length then none else some (digitsValue digits, after)

/-- Reads a directive, to the end of its line. -/
def Cursor.directive? (c : Cursor) : Option (Token × Cursor) := do
  let (name, c) := (c.skip 1).span isWordChar
  if name.isEmpty || !c.atGap then none
  let c := c.skipWhile isSpaceOrTab
  let (token, c) ←
    if name = ['Y', 'A', 'M', 'L'] then do
      let (major, c) ← c.versionNumber?
      if c.head? != some '.' then none
      let (minor, c) ← (c.skip 1).versionNumber?
      some (Token.version major minor, c)
    else if name = ['T', 'A', 'G'] then do
      if c.head? != some '!' then none
      let handle := handleAt c.rest
      if handle != ['!'] && !isClosedHandle handle then none
      let c := c.skip handle.length
      if !(c.head?.any isSpaceOrTab) then none
      let c := c.skipWhile isSpaceOrTab
      let (uri, length) ← tagChars? true 0 c.rest
      let c := c.skip length
      if uri.isEmpty || !c.atGap then none
      some (Token.tagDirective (String.ofList handle) (String.ofList uri), c)
    else none
  let c ← c.endLine?
  return (token, c)

end SqlTemplate.Yaml
