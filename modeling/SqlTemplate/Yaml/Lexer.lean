import SqlTemplate.Yaml.Block
import SqlTemplate.Yaml.Flow
import SqlTemplate.Yaml.Tag

/-!
# Reading the tokens of a YAML text

The lexer keeps the columns of the block collections it is in, and closes them
when a line begins further to the left. The key of a mapping entry need not be
marked: whatever begins where a key may stand is noted as a candidate, and the
colon that follows on the same line, within 1024 columns, turns it into a key
and opens a mapping at its column if none is open there. A candidate at the
column of an open mapping must become a key.
-/

namespace SqlTemplate.Yaml

/-- Something that becomes a key when a colon follows. -/
structure KeyCandidate where
  /-- The number of tokens before it. -/
  position : Nat
  line : Nat
  column : Nat
  /-- Whether it must become a key. -/
  required : Bool

/-- The state between two tokens. -/
structure Lexer where
  cursor : Cursor
  /-- The tokens so far, the last one first. -/
  tokens : List Token
  /-- The number of tokens so far. -/
  count : Nat
  /-- The column of the innermost block collection, or -1. -/
  indent : Int
  /-- The columns of the block collections around it, from the inside out. -/
  outer : List Int
  /-- The candidates of the flow collections around the innermost one. -/
  enclosing : List (Option KeyCandidate)
  /-- The candidate of the innermost flow collection, or of the block context. -/
  candidate : Option KeyCandidate
  /-- Whether a key may stand at the cursor. -/
  keyAllowed : Bool

namespace Lexer

/-- The state at the beginning of a text. -/
def start (s : List Char) : Lexer where
  cursor := ⟨s, 0, 0⟩
  tokens := []
  count := 0
  indent := -1
  outer := []
  enclosing := []
  candidate := none
  keyAllowed := true

/-- Whether the cursor is inside a flow collection. -/
def inFlow (l : Lexer) : Bool := !l.enclosing.isEmpty

/-- Adds a token and moves the cursor. -/
def emit (l : Lexer) (token : Token) (cursor : Cursor) : Lexer :=
  { l with tokens := token :: l.tokens, count := l.count + 1, cursor := cursor }

/-- Inserts tokens, given last one first, after the first `position` tokens. -/
def insertAt (l : Lexer) (position : Nat) (inserted : List Token) : Lexer :=
  let behind := l.count - position
  { l with
    tokens := l.tokens.take behind ++ inserted ++ l.tokens.drop behind
    count := l.count + inserted.length }

/-- Closes the block collections to the right of a column. -/
def closeBlocks (l : Lexer) (column : Int) : Lexer :=
  if l.inFlow then l
  else
    let columns := l.indent :: l.outer
    let closed := columns.takeWhile (column < ·)
    match columns.drop closed.length with
    | indent :: outer =>
      { l with
        tokens := closed.map (fun _ => Token.blockEnd) ++ l.tokens
        count := l.count + closed.length
        indent := indent
        outer := outer }
    | [] => l

/-- Opens a block collection at a column to the right of the innermost one, with its
start token after the first `position` tokens. -/
def openBlock (l : Lexer) (column : Nat) (position : Nat) (token : Token) : Lexer :=
  if l.inFlow || (column : Int) ≤ l.indent then l
  else { l.insertAt position [token] with indent := column, outer := l.indent :: l.outer }

/-- Gives up the candidate; `none` if it had to become a key. -/
def dropCandidate? (l : Lexer) : Option Lexer :=
  if l.candidate.any (·.required) then none else some { l with candidate := none }

/-- Notes what begins at the cursor as a candidate, where a key may stand. -/
def noteCandidate? (l : Lexer) : Option Lexer :=
  if l.keyAllowed then do
    let l ← l.dropCandidate?
    return { l with
      candidate := some
        { position := l.count
          line := l.cursor.line
          column := l.cursor.column
          required := !l.inFlow && l.indent == l.cursor.column } }
  else some l

/-- Whether a candidate can still become a key. -/
def isLive (l : Lexer) (k : KeyCandidate) : Bool :=
  k.line == l.cursor.line && l.cursor.column ≤ k.column + 1024

/-- The cursor at the next token: behind blanks, comments and line breaks. In the
block context a tab does not count as a blank where a key may stand. -/
def skipGaps : (steps : Nat) → Lexer → Lexer
  | 0, l => l
  | steps + 1, l =>
    let isSkipped (c : Char) : Bool := c == ' ' || ((l.inFlow || !l.keyAllowed) && c == '\t')
    let cursor := (l.cursor.skipWhile isSkipped).skipComment
    match cursor.rest with
    | c :: _ =>
      if isBreak c then
        skipGaps steps
          { l with cursor := cursor.skipBreak, keyAllowed := l.keyAllowed || !l.inFlow }
      else { l with cursor := cursor }
    | [] => { l with cursor := cursor }

/-- The state at the next token. A byte order mark may begin the text. -/
def atNextToken (l : Lexer) : Lexer :=
  let isFirst := l.cursor.line == 0 && l.cursor.column == 0 && l.count == 0
  let cursor :=
    if isFirst && l.cursor.head? == some '\ufeff' then l.cursor.skip 1 else l.cursor
  skipGaps (cursor.rest.length + 1) { l with cursor := cursor }

/-! ## One token -/

/-- Closes everything and gives up the candidate, before a directive or a marker. -/
def leaveDocument? (l : Lexer) : Option Lexer := do
  let l ← (l.closeBlocks (-1)).dropCandidate?
  return { l with keyAllowed := false }

/-- A directive. -/
def readDirective? (l : Lexer) : Option Lexer := do
  let l ← l.leaveDocument?
  let (token, cursor) ← l.cursor.directive?
  return l.emit token cursor

/-- A document marker. -/
def readMarker? (l : Lexer) (token : Token) : Option Lexer := do
  let l ← l.leaveDocument?
  return l.emit token (l.cursor.skip 3)

/-- The opening bracket of a flow collection. -/
def openFlow? (l : Lexer) (token : Token) : Option Lexer := do
  let l ← l.noteCandidate?
  let l := { l with enclosing := l.candidate :: l.enclosing, candidate := none, keyAllowed := true }
  return l.emit token (l.cursor.skip 1)

/-- The closing bracket of a flow collection. -/
def closeFlow? (l : Lexer) (token : Token) : Option Lexer := do
  let l ← l.dropCandidate?
  let l := match l.enclosing with
    | candidate :: enclosing => { l with candidate := candidate, enclosing := enclosing }
    | [] => l
  let l := { l with keyAllowed := false }
  return l.emit token (l.cursor.skip 1)

/-- The comma between two entries of a flow collection. -/
def readFlowEntry? (l : Lexer) : Option Lexer := do
  let l ← l.dropCandidate?
  let l := { l with keyAllowed := true }
  return l.emit .flowEntry (l.cursor.skip 1)

/-- The dash before an item of a block sequence. -/
def readBlockEntry? (l : Lexer) : Option Lexer := do
  if !l.inFlow && !l.keyAllowed then none
  let l := l.openBlock l.cursor.column l.count .blockSequenceStart
  let l ← l.dropCandidate?
  let l := { l with keyAllowed := true }
  return l.emit .blockEntry (l.cursor.skip 1)

/-- The question mark before a key. -/
def readKey? (l : Lexer) : Option Lexer := do
  if !l.inFlow && !l.keyAllowed then none
  let l := l.openBlock l.cursor.column l.count .blockMappingStart
  let l ← l.dropCandidate?
  let l := { l with keyAllowed := !l.inFlow }
  return l.emit .key (l.cursor.skip 1)

/-- The colon before a value. -/
def readValue? (l : Lexer) : Option Lexer := do
  let live := l.candidate.filter l.isLive
  match live with
  | some k =>
    let l := l.insertAt k.position [.key]
    let l := l.openBlock k.column k.position .blockMappingStart
    let l := { l with candidate := none, keyAllowed := false }
    return l.emit .value (l.cursor.skip 1)
  | none =>
    let l ← l.dropCandidate?
    if !l.inFlow && !l.keyAllowed then none
    let l := l.openBlock l.cursor.column l.count .blockMappingStart
    let l := { l with keyAllowed := !l.inFlow }
    return l.emit .value (l.cursor.skip 1)

/-- An anchor, an alias, a tag or a scalar other than a block scalar: something that
may begin a key, read by `read?`. -/
def readKeyPart? (l : Lexer) (read? : Cursor → Option (Token × Cursor)) : Option Lexer := do
  let l ← l.noteCandidate?
  let (token, cursor) ← read? l.cursor
  return { l with keyAllowed := false }.emit token cursor

/-- A plain scalar. After one that goes over the end of a line a key may stand. -/
def readPlain? (l : Lexer) : Option Lexer := do
  let l ← l.noteCandidate?
  let scalar ← l.cursor.plain? l.inFlow (l.indent + 1).toNat
  let l := { l with keyAllowed := scalar.multilineGap }
  return l.emit (.scalar (String.ofList scalar.text) true) scalar.after

/-- A quoted scalar. -/
def readQuoted? (l : Lexer) (quotes : Quotes) : Option Lexer :=
  l.readKeyPart? fun c =>
    (c.quoted? quotes).map fun (s, c) => (.scalar (String.ofList s) false, c)

/-- A block scalar. -/
def readBlock? (l : Lexer) (folded : Bool) : Option Lexer := do
  let l ← l.dropCandidate?
  let (s, cursor) ← l.cursor.block? folded l.indent
  return { l with keyAllowed := true }.emit (.scalar (String.ofList s) false) cursor

/-- A character that is an indicator wherever a token begins. -/
def isLoneIndicator (c : Char) : Bool :=
  ['#', '&', '*', '!', '|', '>', '\'', '"', '%', '@', '\x60'].contains c

/-- Whether a plain scalar can begin with a character before `rest`. -/
def beginsPlain (inFlow : Bool) (c : Char) (rest : List Char) : Bool :=
  if c == '-' then !(rest.head?.any isSpaceOrTab)
  else if c == '?' || c == ':' then !inFlow && !gapFollows rest
  else !isGap c && !isFlowIndicator c &&
    !isLoneIndicator c

/-- Reads the token at the cursor, which begins with `c`. -/
def readToken? (l : Lexer) (c : Char) (rest : List Char) : Option Lexer :=
  if l.cursor.column == 0 && c == '%' then l.readDirective?
  else if l.cursor.atMarker then
    l.readMarker? (if c == '-' then .documentStart else .documentEnd)
  else if c == '[' then l.openFlow? .flowSequenceStart
  else if c == '\x7b' then l.openFlow? .flowMappingStart
  else if c == ']' then l.closeFlow? .flowSequenceEnd
  else if c == '\x7d' then l.closeFlow? .flowMappingEnd
  else if c == ',' then l.readFlowEntry?
  else if c == '-' && gapFollows rest then l.readBlockEntry?
  else if c == '?' && (l.inFlow || gapFollows rest) then l.readKey?
  else if c == ':' && (l.inFlow || gapFollows rest) then l.readValue?
  else if c == '*' then
    l.readKeyPart? fun c => c.anchorName?.map fun (name, c) => (.alias name, c)
  else if c == '&' then
    l.readKeyPart? fun c => c.anchorName?.map fun (name, c) => (.anchor name, c)
  else if c == '!' then l.readKeyPart? (·.tag? l.inFlow)
  else if c == '|' && !l.inFlow then l.readBlock? false
  else if c == '>' && !l.inFlow then l.readBlock? true
  else if c == '\'' then l.readQuoted? .single
  else if c == '"' then l.readQuoted? .double
  else if beginsPlain l.inFlow c rest then l.readPlain?
  else none

/-- Reads tokens to the end of the text; each takes a character at least. -/
def run? : (steps : Nat) → Lexer → Option (List Token)
  | 0, _ => none
  | steps + 1, l =>
    let l := l.atNextToken
    match l.cursor.rest with
    | [] => do
      let l ← (l.closeBlocks (-1)).dropCandidate?
      return l.tokens.reverse
    | c :: rest => do
      let l ← (l.closeBlocks l.cursor.column).readToken? c rest
      run? steps l

end Lexer

/-- The tokens of a text. -/
def tokens? (source : String) : Option (List Token) :=
  let chars := source.toList
  if chars.all isPrintable then
    let s := unifyBreaks chars
    Lexer.run? (s.length + 1) (.start s)
  else none

end SqlTemplate.Yaml
