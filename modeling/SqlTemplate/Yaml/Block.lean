import SqlTemplate.Yaml.Token

/-!
# Block scalars

A block scalar is announced by a bar or an angle bracket and consists of the
indented lines below it. After a bar line breaks stay as they are; after an
angle bracket a break between two lines that begin without a blank is folded.
What becomes of the breaks at the end is said by the indicator: one stays, none
with a minus sign, all with a plus sign.
-/

namespace SqlTemplate.Yaml

/-- What becomes of the line breaks at the end of a block scalar. -/
inductive Chomping where
  | strip
  | clip
  | keep
deriving DecidableEq

/-- What the indicators of a block scalar say. -/
structure BlockHeader where
  folded : Bool
  chomping : Chomping
  /-- The indentation relative to the collection around, if it is given. -/
  increment : Option Nat

/-- The indicator of chomping at a cursor, if there is one. -/
def chomping? (c : Cursor) : Option Chomping :=
  match c.head? with
  | some '+' => some .keep
  | some '-' => some .strip
  | _ => none

/-- The indicator of indentation at a cursor: nothing, or a digit other than zero;
`none` for a zero. -/
def increment? (c : Cursor) : Option (Option Nat × Cursor) :=
  match c.head? with
  | some d =>
    if d == '0' then none
    else if d.isDigit then some (some (d.toNat - '0'.toNat), c.skip 1)
    else some (none, c)
  | none => some (none, c)

/-- Reads the indicators after the first, in either order, and the rest of the line. -/
def blockHeader? (folded : Bool) (c : Cursor) : Option (BlockHeader × Cursor) :=
  match chomping? c with
  | some chomping => do
    let (increment, c) ← increment? (c.skip 1)
    let c ← c.endLine?
    return (⟨folded, chomping, increment⟩, c)
  | none => do
    let (increment, c) ← increment? c
    let (chomping, c) := match increment, chomping? c with
      | some _, some chomping => (chomping, c.skip 1)
      | _, _ => (.clip, c)
    let c ← c.endLine?
    return (⟨folded, chomping, increment⟩, c)

/-- The empty lines before the next line of content: their breaks, the widest
indentation met, and the cursor at that line. -/
structure EmptyLines where
  breaks : List Char
  widest : Nat
  after : Cursor

/-- Reads empty lines, where `indent` is the indentation of the content if it is
known. Blanks up to it are skipped; a tab before it is refused. -/
def readEmptyLines? (indent : Option Nat) (breaks : List Char) (widest line column : Nat) :
    List Char → Option EmptyLines
  | [] => some ⟨breaks, max widest column, [], line, column⟩
  | c :: rest =>
    let inside := match indent with
      | none => true
      | some n => column < n
    if inside && c == ' ' then readEmptyLines? indent breaks widest line (column + 1) rest
    else if inside && c == '\t' then none
    else if isBreak c then
      readEmptyLines? indent (breaks ++ [c]) (max widest column) (line + 1) 0 rest
    else some ⟨breaks, max widest column, c :: rest, line, column⟩

/-- Reads the empty lines at a cursor. -/
def Cursor.emptyLines? (c : Cursor) (indent : Option Nat) : Option EmptyLines :=
  readEmptyLines? indent [] 0 c.line c.column c.rest

/-- What has been read of a block scalar: the content so far, the break after its
last line, and the empty lines after that. -/
structure BlockContent where
  read : List Char
  lastBreak : List Char
  emptyLines : List Char
  /-- Whether the last line begins with a blank. -/
  indented : Bool

/-- The content with a further line. -/
def BlockContent.addLine (b : BlockContent) (folded : Bool) (line : List Char) : List Char :=
  let beginsBlank := match line with
    | c :: _ => isSpaceOrTab c
    | [] => false
  let join :=
    if folded && b.lastBreak == ['\n'] && !b.indented && !beginsBlank then
      if b.emptyLines.isEmpty then [' '] else b.emptyLines
    else b.lastBreak ++ b.emptyLines
  b.read ++ join ++ line

/-- Reads the lines of content at an indentation; each step takes a line. -/
def readBlock? (folded : Bool) (indent : Nat) :
    (steps : Nat) → BlockContent → Cursor → Option (BlockContent × Cursor)
  | 0, content, c => some (content, c)
  | steps + 1, content, c =>
    if c.column != indent || c.rest.isEmpty then some (content, c)
    else do
      let (line, atEnd) := c.span (!isBreak ·)
      let beginsBlank := match line with
        | ch :: _ => isSpaceOrTab ch
        | [] => false
      let (lineBreak, next) := match atEnd.rest with
        | [] => ([], atEnd)
        | b :: _ => ([b], atEnd.skipBreak)
      let empty ← next.emptyLines? (some indent)
      readBlock? folded indent steps
        ⟨content.addLine folded line, lineBreak, empty.breaks, beginsBlank⟩ empty.after

/-- Reads the block scalar whose indicator stands at a cursor, inside a collection
at column `outer`, or at -1 outside all. Returns the content and the cursor
behind it. -/
def Cursor.block? (c : Cursor) (folded : Bool) (outer : Int) : Option (List Char × Cursor) := do
  let (header, c) ← blockHeader? folded (c.skip 1)
  let given := header.increment.map fun n => outer.toNat + n
  let empty ← c.emptyLines? given
  let indent := given.getD (max empty.widest (max (outer + 1).toNat 1))
  let (content, c) ← readBlock? folded indent (c.rest.length + 1)
    ⟨[], [], empty.breaks, false⟩ empty.after
  let tail := match header.chomping with
    | .strip => []
    | .clip => content.lastBreak
    | .keep => content.lastBreak ++ content.emptyLines
  return (content.read ++ tail, c)

end SqlTemplate.Yaml
