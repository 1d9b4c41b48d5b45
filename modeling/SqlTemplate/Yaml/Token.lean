/-!
# Tokens of a YAML text

A YAML text is read as a sequence of tokens. Indentation has been turned into
brackets by then: a block collection is enclosed in its own start and end
tokens, and the key of a mapping entry is announced even where nothing marks it
in the text.

All characters are read through a cursor that knows its line and column. Line
breaks have been unified beforehand, so a break is a line feed or one of the
two Unicode separators.
-/

namespace SqlTemplate.Yaml

/-- A token. -/
inductive Token where
  | version (major minor : Nat)
  | tagDirective (handle expansion : String)
  | documentStart
  | documentEnd
  | blockSequenceStart
  | blockMappingStart
  | blockEnd
  | flowSequenceStart
  | flowSequenceEnd
  | flowMappingStart
  | flowMappingEnd
  | blockEntry
  | flowEntry
  | key
  | value
  | alias (name : String)
  | anchor (name : String)
  | tag (handle suffix : String)
  /-- A scalar; `plain` tells that it stood without quotes or a block indicator. -/
  | scalar (text : String) (plain : Bool)
deriving DecidableEq

/-- A line break. -/
def isBreak (c : Char) : Bool := c == '\n' || c == '\u2028' || c == '\u2029'

/-- A blank within a line. -/
def isSpaceOrTab (c : Char) : Bool := c == ' ' || c == '\t'

/-- A blank or a line break. -/
def isGap (c : Char) : Bool := isSpaceOrTab c || isBreak c

/-- Whether a text is over or goes on with a blank or a line break. -/
def gapFollows : List Char → Bool
  | [] => true
  | c :: _ => isGap c

/-- A character of directive names, anchors and tag handles. -/
def isWordChar (c : Char) : Bool := c.isAlphanum || c == '_' || c == '-'

/-- A character that may occur in a YAML text. -/
def isPrintable (c : Char) : Bool :=
  let n := c.toNat
  n == 0x09 || n == 0x0A || n == 0x0D || (0x20 ≤ n && n ≤ 0x7E) || n == 0x85 ||
    (0xA0 ≤ n && n ≤ 0xD7FF) || (0xE000 ≤ n && n ≤ 0xFFFD) || 0x10000 ≤ n

/-- The text with each kind of line end that is not a Unicode separator turned
into a line feed. -/
def unifyBreaks : List Char → List Char
  | '\r' :: '\n' :: rest => '\n' :: unifyBreaks rest
  | '\r' :: rest => '\n' :: unifyBreaks rest
  | '\u0085' :: rest => '\n' :: unifyBreaks rest
  | c :: rest => c :: unifyBreaks rest
  | [] => []

/-- A place in a text: what is left of it, and the line and column. -/
structure Cursor where
  rest : List Char
  line : Nat
  column : Nat

namespace Cursor

/-- The character at the cursor. -/
def head? (c : Cursor) : Option Char := c.rest.head?

/-- The cursor behind some characters of the current line. -/
def skip (c : Cursor) (count : Nat) : Cursor :=
  { c with rest := c.rest.drop count, column := c.column + count }

/-- The cursor at the start of the next line, behind a line break. -/
def skipBreak (c : Cursor) : Cursor := ⟨c.rest.drop 1, c.line + 1, 0⟩

/-- The characters at the cursor that satisfy a test no line break satisfies, and
the cursor behind them. -/
def span (c : Cursor) (test : Char → Bool) : List Char × Cursor :=
  let taken := c.rest.takeWhile test
  (taken, c.skip taken.length)

/-- The cursor behind the characters that satisfy a test no line break satisfies. -/
def skipWhile (c : Cursor) (test : Char → Bool) : Cursor := (c.span test).2

/-- Whether the text goes on with the given characters. -/
def startsWith (c : Cursor) (chars : List Char) : Bool := chars.isPrefixOf c.rest

/-- Whether the text is over, or goes on with a blank or a line break. -/
def atGap (c : Cursor) : Bool := gapFollows c.rest

/-- Whether a document marker stands at the cursor: three dashes or points at the
start of a line, with a gap behind them. -/
def atMarker (c : Cursor) : Bool :=
  c.column == 0 && (c.startsWith ['-', '-', '-'] || c.startsWith ['.', '.', '.']) &&
    gapFollows (c.rest.drop 3)

/-- The cursor at the end of a line: behind blanks and a comment. -/
def skipComment (c : Cursor) : Cursor :=
  if c.head? == some '#' then c.skipWhile (!isBreak ·) else c

/-- The cursor behind the rest of a line that may hold a comment only. -/
def endLine? (c : Cursor) : Option Cursor :=
  let c := (c.skipWhile isSpaceOrTab).skipComment
  match c.rest with
  | [] => some c
  | ch :: _ => if isBreak ch then some c.skipBreak else none

end Cursor

end SqlTemplate.Yaml
