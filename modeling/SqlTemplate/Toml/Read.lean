import SqlTemplate.Toml.Scalar

/-!
# Reading TOML

A document is a sequence of lines: entries under keys, headers of tables, headers in
double brackets, comments and empty lines. The text is first read as a list of
`Line`s, and the lines are then carried out one after the other on the table of the
whole document.
-/

namespace SqlTemplate.Toml

/-- How many arrays and tables in braces may stand inside one another. -/
def maxNesting : Nat := 80

/-- The text from its first character that is neither space nor tab. -/
def skipBlanks (s : List Char) : List Char := s.dropWhile fun c => c == ' ' || c == '\t'

/-- The text behind blanks, ends of lines and comments. -/
def skipGap? : (inComment : Bool) → List Char → Option (List Char)
  | _, [] => some []
  | _, '\n' :: rest => skipGap? false rest
  | _, '\r' :: '\n' :: rest => skipGap? false rest
  | true, c :: rest => if isPrintable c then skipGap? true rest else none
  | false, c :: rest =>
    if c == ' ' || c == '\t' then skipGap? false rest
    else if c == '#' then skipGap? true rest
    else some (c :: rest)

/-- The text behind the characters of a comment. -/
def skipComment (s : List Char) : List Char := s.dropWhile isPrintable

/-- The text behind the end of a line, before which blanks and a comment may stand. -/
def endLine? (s : List Char) : Option (List Char) :=
  let s := match skipBlanks s with
    | '#' :: rest => skipComment rest
    | rest => rest
  match s with
  | [] => some []
  | '\n' :: rest => some rest
  | '\r' :: '\n' :: rest => some rest
  | _ => none

/-! ## Keys -/

/-- A character of a key without quotes. -/
def isKeyChar (c : Char) : Bool := c.isAlphanum || c == '_' || c == '-'

/-- Reads one key: a bare one, or a string on one line. -/
def readKey? (s : List Char) : Option (String × List Char) :=
  match s with
  | '"' :: rest => readLineString? '"' 0 [] rest
  | '\'' :: rest => readLineString? '\'' 0 [] rest
  | s =>
    let key := s.takeWhile isKeyChar
    if key.isEmpty then none else some (String.ofList key, s.dropWhile isKeyChar)

/-- A key behind the keys of the tables that lead to it. -/
structure KeyPath where
  before : List String
  last : String

/-- Reads keys with dots between them; each takes a character at least. -/
def readKeys? : (steps : Nat) → (before : List String) → List Char → Option (KeyPath × List Char)
  | 0, _, _ => none
  | steps + 1, before, s => do
    let (key, rest) ← readKey? (skipBlanks s)
    match skipBlanks rest with
    | '.' :: rest => readKeys? steps (key :: before) rest
    | rest => return (⟨before.reverse, key⟩, rest)

/-- Reads a dotted key and the blanks around it. -/
def readKeyPath? (s : List Char) : Option (KeyPath × List Char) := readKeys? (s.length + 1) [] s

/-! ## Values -/

/-- A reader of values. -/
abbrev Reader := List Char → Option (Value × List Char)

/-- Reads elements up to the closing bracket; each takes a character at least. -/
def readItems? (item : Reader) :
    (steps : Nat) → (read : List Value) → List Char → Option (List Value × List Char)
  | 0, _, _ => none
  | steps + 1, read, s => do
    match ← skipGap? false s with
    | ']' :: rest => return (read.reverse, rest)
    | s =>
      let (value, rest) ← item s
      match ← skipGap? false rest with
      | ',' :: rest => readItems? item steps (value :: read) rest
      | ']' :: rest => return ((value :: read).reverse, rest)
      | _ => none

/-- Reads a key, an equals sign and a value. -/
def readEntry? (item : Reader) (s : List Char) : Option (KeyPath × Value × List Char) := do
  let (path, rest) ← readKeyPath? s
  match rest with
  | '=' :: rest =>
    let (value, rest) ← item (skipBlanks rest)
    return (path, value, rest)
  | _ => none

/-- Reads entries up to the closing brace; each takes a character at least. -/
def readEntries? (item : Reader) :
    (steps : Nat) → (read : Table) → List Char → Option (Table × List Char)
  | 0, _, _ => none
  | steps + 1, read, s => do
    match ← skipGap? false s with
    | '\x7d' :: rest => return (read, rest)
    | s =>
      let (path, value, rest) ← readEntry? item s
      let read ← Table.assign path.before path.last value read
      match ← skipGap? false rest with
      | ',' :: rest => readEntries? item steps read rest
      | '\x7d' :: rest => return (read, rest)
      | _ => none

/-- Reads one value, in which arrays and tables in braces nest at most so many levels. -/
def readValue? (levels : Nat) (s : List Char) : Option (Value × List Char) :=
  match s with
  | '"' :: _ => (readString? '"' s).map fun (text, rest) => (.string text, rest)
  | '\'' :: _ => (readString? '\'' s).map fun (text, rest) => (.string text, rest)
  | '[' :: rest =>
    match levels with
    | 0 => none
    | inner + 1 =>
      (readItems? (readValue? inner) (rest.length + 1) [] rest).map
        fun (items, rest) => (.array items, rest)
  | '\x7b' :: rest =>
    match levels with
    | 0 => none
    | inner + 1 =>
      (readEntries? (readValue? inner) (rest.length + 1) [] rest).map
        fun (entries, rest) => (.table .braced entries, rest)
  | s =>
    let length := scalarLength s
    (scalar? (s.take length)).map fun value => (value, s.drop length)

/-! ## Lines -/

/-- What a line says. -/
inductive Line where
  | empty
  | entry (path : KeyPath) (value : Value)
  /-- The header of a table. -/
  | header (path : KeyPath)
  /-- The header of a further row of an array of tables. -/
  | row (path : KeyPath)

/-- Reads a line up to its end. -/
def readLine? (s : List Char) : Option (Line × List Char) :=
  match skipBlanks s with
  | '[' :: '[' :: rest => do
    let (path, rest) ← readKeyPath? rest
    match rest with
    | ']' :: ']' :: rest => return (.row path, ← endLine? rest)
    | _ => none
  | '[' :: rest => do
    let (path, rest) ← readKeyPath? rest
    match rest with
    | ']' :: rest => return (.header path, ← endLine? rest)
    | _ => none
  | s =>
    match endLine? s with
    | some rest => some (.empty, rest)
    | none => do
      let (path, value, rest) ← readEntry? (readValue? maxNesting) s
      return (.entry path value, ← endLine? rest)

/-- Reads the lines of a text; each takes a character at least. -/
def readLines? : (steps : Nat) → List Char → Option (List Line)
  | _, [] => some []
  | 0, _ => none
  | steps + 1, s => do
    let (line, rest) ← readLine? s
    let lines ← readLines? steps rest
    return line :: lines

/-- A document while its lines are carried out: its table, and the path of the header
under which entries stand. -/
structure Draft where
  table : Table
  path : List String

/-- Carries out a line. -/
def Draft.carryOut (draft : Draft) : Line → Option Draft
  | .empty => some draft
  | .entry path value => do
    let table ← draft.table.inOpen draft.path (Table.assign path.before path.last value)
    return ⟨table, draft.path⟩
  | .header path => do
    let table ← draft.table.openTable path.before path.last
    return ⟨table, path.before ++ [path.last]⟩
  | .row path => do
    let table ← draft.table.openRow path.before path.last
    return ⟨table, path.before ++ [path.last]⟩

/-- The table of a document. A byte order mark may stand in front of it. -/
def read? (source : String) : Option Table := do
  let s := match source.toList with
    | '\uFEFF' :: rest => rest
    | s => s
  let lines ← readLines? (s.length + 1) s
  let draft ← lines.foldlM Draft.carryOut ⟨[], []⟩
  return draft.table

end SqlTemplate.Toml
