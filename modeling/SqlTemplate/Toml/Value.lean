import SqlTemplate.Keyed
import SqlTemplate.Numeric.Binary64

/-!
# TOML values

A document is a table. Tables come from headers, from the keys on the way to a
header, from dotted keys, and from braces; which of these decides what may still be
added to them. The tables of an array under double brackets are its rows.
-/

namespace SqlTemplate.Toml

/-- How a table came to be. -/
inductive Form where
  /-- Named by a header of its own, or the whole document. -/
  | header
  /-- On the way to a table with a header. -/
  | implied
  /-- On the way to a dotted key. -/
  | dotted
  /-- Written in braces; nothing can be added to it. -/
  | braced
deriving DecidableEq

/-- A value. The entries of a table are in key order; of the rows the last one written
comes first. -/
inductive Value where
  | string (s : String)
  | integer (n : Int)
  | float (x : Binary64)
  | boolean (b : Bool)
  | dateTime (text : String)
  | array (items : List Value)
  | table (form : Form) (entries : List (String × Value))
  | rows (tables : List (List (String × Value)))
deriving Inhabited

namespace Value

/-- The elements of an array, or the rows under double brackets. -/
def items? : Value → Option (List Value)
  | .array items => some items
  | .rows tables => some (tables.reverse.map (.table .header ·))
  | _ => none

end Value

/-! ## Adding to tables -/

/-- The entries of a table. -/
abbrev Table := List (String × Value)

namespace Table

/-- Changes the table that a path leads to, and makes those that are missing on the way.
A path through an array of tables leads to its last row. The keys of a dotted path do
not lead through a table with a header. -/
def within (dotted : Bool) (change : Form → Table → Option Table) :
    (path : List String) → Form → Table → Option Table
  | [], form, entries => change form entries
  | key :: rest, _, entries =>
    match Entries.find? key entries with
    | none => do
      let form := if dotted then Form.dotted else Form.implied
      let inner ← within dotted change rest form []
      return Entries.insert key (.table form inner) entries
    | some (.table form inner) =>
      if form = .braced || (dotted && form = .header) then none
      else do
        let inner ← within dotted change rest form inner
        return Entries.insert key (.table form inner) entries
    | some (.rows (last :: before)) => do
      let last ← within dotted change rest .header last
      return Entries.insert key (.rows (last :: before)) entries
    | some _ => none

/-- Adds an entry under a key that is not there yet. -/
def add (key : String) (value : Value) (entries : Table) : Option Table :=
  match Entries.find? key entries with
  | none => some (Entries.insert key value entries)
  | some _ => none

/-- Adds an entry under a dotted key. Only tables that dotted keys made can be added to. -/
def assign (path : List String) (key : String) (value : Value) (entries : Table) :
    Option Table :=
  match path with
  | [] => add key value entries
  | path =>
    within true (fun form inner => if form = .dotted then add key value inner else none)
      path .header entries

/-- Opens the table of a header. It may be there already only as implied. -/
def openTable (path : List String) (key : String) (entries : Table) : Option Table :=
  within false (fun _ inner =>
    match Entries.find? key inner with
    | none => some (Entries.insert key (.table .header []) inner)
    | some (.table .implied given) => some (Entries.insert key (.table .header given) inner)
    | some _ => none) path .header entries

/-- Opens a further row under a header in double brackets. -/
def openRow (path : List String) (key : String) (entries : Table) : Option Table :=
  within false (fun _ inner =>
    match Entries.find? key inner with
    | none => some (Entries.insert key (.rows [[]]) inner)
    | some (.rows tables) => some (Entries.insert key (.rows ([] :: tables)) inner)
    | some _ => none) path .header entries

/-- Changes the table that a header opened last. -/
def inOpen (path : List String) (change : Table → Option Table) (entries : Table) :
    Option Table :=
  within false (fun _ inner => change inner) path .header entries

end Table

end SqlTemplate.Toml
