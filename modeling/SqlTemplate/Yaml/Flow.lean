import SqlTemplate.Numeric.Numeral
import SqlTemplate.Yaml.Token

/-!
# Plain and quoted scalars

These scalars may go on over several lines. Their content is made of stretches
without blanks and the gaps between them. A gap within a line is kept; one that
holds line breaks is folded: a single line feed becomes a space, and of several
the first is dropped.
-/

namespace SqlTemplate.Yaml

/-- What stands between two stretches of a scalar. -/
structure Gap where
  /-- Blanks, as long as there is no break. -/
  spaces : List Char
  /-- Line breaks. -/
  breaks : List Char
  /-- Whether an escaped line break came before, which joins the lines. -/
  joined : Bool

namespace Gap

/-- No gap at all. -/
def none : Gap := ⟨[], [], false⟩

/-- Whether the gap goes over the end of a line. -/
def isMultiline (g : Gap) : Bool := g.joined || !g.breaks.isEmpty

/-- The content that the gap amounts to. -/
def folded (g : Gap) : List Char :=
  if g.joined then g.breaks
  else match g.breaks with
    | [] => g.spaces
    | ['\n'] => [' ']
    | '\n' :: more => more
    | breaks => breaks

end Gap

/-- Reads a gap. A tab to the left of column `indent` is refused on a further line. -/
def readGap? (indent : Nat) (gap : Gap) (line column : Nat) : List Char → Option (Gap × Cursor)
  | [] => some (gap, ⟨[], line, column⟩)
  | c :: rest =>
    if isBreak c then
      readGap? indent { gap with spaces := [], breaks := gap.breaks ++ [c] } (line + 1) 0 rest
    else if isSpaceOrTab c then
      if !gap.isMultiline then
        readGap? indent { gap with spaces := gap.spaces ++ [c] } line (column + 1) rest
      else if c == '\t' && column < indent then Option.none
      else readGap? indent gap line (column + 1) rest
    else some (gap, ⟨c :: rest, line, column⟩)

/-- Reads the gap at a cursor. -/
def Cursor.gap? (c : Cursor) (indent : Nat) (joined : Bool) : Option (Gap × Cursor) :=
  readGap? indent { Gap.none with joined := joined } c.line c.column c.rest

/-! ## Plain scalars -/

/-- The indicators that end a plain scalar inside a flow collection. -/
def isFlowIndicator (c : Char) : Bool :=
  c == ',' || c == '[' || c == ']' || c == '\x7b' || c == '\x7d'

/-- The stretch of a plain scalar at the head of a text, up to a gap, a colon
before a gap, or in a flow collection one of its indicators; `none` where a
colon stands directly before such an indicator. -/
def plainStretch? (inFlow : Bool) : List Char → Option (List Char)
  | [] => some []
  | c :: rest =>
    if isGap c then some []
    else if inFlow && c == ':' && (match rest with
        | next :: _ => isFlowIndicator next || next == '?'
        | [] => false) then none
    else if (c == ':' && gapFollows rest) || (inFlow && isFlowIndicator c) then some []
    else (plainStretch? inFlow rest).map (c :: ·)

/-- A plain scalar: its text, the cursor behind it and the gap after it, and
whether that gap goes over the end of a line. -/
structure PlainScalar where
  text : List Char
  after : Cursor
  multilineGap : Bool

/-- Reads a plain scalar that has begun; each step takes a character at least. -/
def readPlain? (inFlow : Bool) (indent : Nat) :
    (steps : Nat) → (read : List Char) → (gap : Gap) → Cursor → Option PlainScalar
  | 0, read, gap, c => some ⟨read, c, gap.isMultiline⟩
  | steps + 1, read, gap, c =>
    if c.atMarker || c.head? == some '#' then some ⟨read, c, gap.isMultiline⟩
    else do
      let stretch ← plainStretch? inFlow c.rest
      if stretch.isEmpty then return ⟨read, c, gap.isMultiline⟩
      let read := read ++ gap.folded ++ stretch
      let c := c.skip stretch.length
      if c.atGap && !c.rest.isEmpty then
        let (gap, c) ← c.gap? indent false
        if !inFlow && c.column < indent then return ⟨read, c, gap.isMultiline⟩
        readPlain? inFlow indent steps read gap c
      else return ⟨read, c, false⟩

/-- Reads the plain scalar at a cursor. Outside flow collections its further lines
stand at column `indent` or to the right of it. -/
def Cursor.plain? (c : Cursor) (inFlow : Bool) (indent : Nat) : Option PlainScalar :=
  readPlain? inFlow indent (c.rest.length + 1) [] .none c

/-! ## Quoted scalars -/

/-- The character that a letter after a backslash stands for. -/
def escape? : Char → Option Char
  | '0' => some '\x00'
  | 'a' => some '\x07'
  | 'b' => some '\x08'
  | 't' => some '\t'
  | '\t' => some '\t'
  | 'n' => some '\n'
  | 'v' => some '\x0b'
  | 'f' => some '\x0c'
  | 'r' => some '\r'
  | 'e' => some '\x1b'
  | ' ' => some ' '
  | '"' => some '"'
  | '/' => some '/'
  | '\\' => some '\\'
  | 'N' => some '\u0085'
  | '_' => some '\u00a0'
  | 'L' => some '\u2028'
  | 'P' => some '\u2029'
  | _ => none

/-- The number of hexadecimal digits that follow a letter after a backslash. -/
def escapeWidth? : Char → Option Nat
  | 'x' => some 2
  | 'u' => some 4
  | 'U' => some 8
  | _ => none

/-- The character of a code point; surrogates and numbers beyond the last code
point have none. -/
def codePoint? (n : Nat) : Option Char :=
  if h : n.isValidChar then some (Char.ofNatAux n h) else none

/-- The character that an escape stands for, and the length of the escape without
its backslash. -/
def escaped? : List Char → Option (Char × Nat)
  | [] => none
  | c :: rest =>
    match escapeWidth? c with
    | some width => do
      let digits := rest.take width
      if digits.length < width then none
      else
        let n ← baseValue? 16 digits
        let decoded ← codePoint? n
        return (decoded, width + 1)
    | none => (escape? c).map (·, 1)

/-- The kind of quotes around a scalar. -/
inductive Quotes where
  | single
  | double
deriving DecidableEq

/-- The character of a kind of quotes. -/
def Quotes.char : Quotes → Char
  | .single => '\''
  | .double => '"'

/-- How a stretch of a quoted scalar ends. -/
inductive StretchEnd where
  /-- Before a gap, the closing quote or the end of the text. -/
  | plain
  /-- At a backslash before a line break. -/
  | escapedBreak
deriving DecidableEq

/-- The content of the stretch of a quoted scalar at the head of a text, of which
the first `skip` characters have been read; its length; and how it ends. -/
def quotedStretch? (quotes : Quotes) :
    (skip : Nat) → List Char → Option (List Char × Nat × StretchEnd)
  | _, [] => some ([], 0, .plain)
  | skip + 1, _ :: rest =>
    (quotedStretch? quotes skip rest).map fun (s, n, stop) => (s, n + 1, stop)
  | 0, c :: rest =>
    let put (read : Char) (more : Option (List Char × Nat × StretchEnd)) :=
      more.map fun (s, n, stop) => (read :: s, n + 1, stop)
    if isGap c then some ([], 0, .plain)
    else match quotes, c, rest with
      | .single, '\'', '\'' :: _ => put '\'' (quotedStretch? quotes 1 rest)
      | .single, '\'', _ => some ([], 0, .plain)
      | .double, '"', _ => some ([], 0, .plain)
      | .double, '\\', next :: _ =>
        if isBreak next then some ([], 0, .escapedBreak)
        else match escaped? rest with
          | some (read, length) => put read (quotedStretch? quotes length rest)
          | none => none
      | .double, '\\', [] => none
      | _, c, _ => put c (quotedStretch? quotes 0 rest)

/-- Reads a quoted scalar after its opening quote; each step takes a character at
least. Returns the content and the cursor behind the closing quote. -/
def readQuoted? (quotes : Quotes) :
    (steps : Nat) → (read : List Char) → Cursor → Option (List Char × Cursor)
  | 0, _, _ => none
  | steps + 1, read, c =>
    if c.atMarker || c.rest.isEmpty then none
    else do
      let (stretch, length, stop) ← quotedStretch? quotes 0 c.rest
      let read := read ++ stretch
      let c := c.skip length
      match stop with
      | .escapedBreak =>
        let c := (c.skip 1).skipBreak
        if c.head? == some quotes.char then return (read, c.skip 1)
        let (gap, c) ← c.gap? 0 true
        readQuoted? quotes steps (read ++ gap.folded) c
      | .plain =>
        if c.head? == some quotes.char then return (read, c.skip 1)
        let (gap, c) ← c.gap? 0 false
        readQuoted? quotes steps (read ++ gap.folded) c

/-- Reads the quoted scalar whose opening quote stands at a cursor. -/
def Cursor.quoted? (c : Cursor) (quotes : Quotes) : Option (List Char × Cursor) :=
  readQuoted? quotes (c.rest.length + 1) [] (c.skip 1)

end SqlTemplate.Yaml
