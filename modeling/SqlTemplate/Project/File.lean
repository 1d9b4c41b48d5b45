import SqlTemplate.Settings
import SqlTemplate.Toml.Read

/-!
# Project files

A project file is a TOML document. It gives the version of its format, and may give
the directory of the templates and how statements are rendered. Entries it does not
know are left aside.
-/

namespace SqlTemplate

/-- What a project file says. -/
structure ProjectFile where
  version : String := "1"
  /-- The template directory, as written. -/
  templates : String := "sql"
  settings : Settings := {}
deriving DecidableEq

namespace ProjectFile

/-- The text of a value. -/
def text? : Toml.Value → Option String
  | .string s => some s
  | _ => none

/-- A count that fits 64 bits. -/
def count? : Toml.Value → Option Nat
  | .integer n => if 0 ≤ n && n < 0x10000000000000000 then some n.toNat else none
  | _ => none

/-- The name of a choice: a text, or the only key of a table, under which nothing may
be. -/
def choice? : Toml.Value → Option String
  | .string s => some s
  | .table _ [(name, .table _ [])] => some name
  | .table _ [(name, .array [])] => some name
  | _ => none

/-- A value that may be absent and then is the given one. -/
def orElse {α : Type} (read : Toml.Value → Option α) (fallback : α) :
    Option Toml.Value → Option α
  | some v => read v
  | none => some fallback

/-- The settings that three values give. -/
def settingsOf? (markers depth nestedParams : Option Toml.Value) : Option Settings := do
  let usual : Settings := {}
  let markers ← orElse (fun v => (choice? v).bind MarkerStyle.ofName?) usual.markers markers
  let depth ← orElse count? usual.maxIncludeDepth depth
  let nestedParams ←
    orElse (fun v => (choice? v).bind NestedParams.ofName?) usual.nestedParams nestedParams
  return ⟨depth, markers, nestedParams⟩

/-- The settings that a value gives, by name or in order. -/
def settings? : Toml.Value → Option Settings
  | .table _ entries =>
    settingsOf? (Entries.find? "placeholder" entries)
      (Entries.find? "max_include_depth" entries) (Entries.find? "nested_params" entries)
  | v => do
    let items ← v.items?
    settingsOf? items[0]? items[1]? items[2]?

/-- The project file that a document is. -/
def ofTable? (entries : Toml.Table) : Option ProjectFile := do
  let usual : ProjectFile := {}
  let version ← (Entries.find? "version" entries).bind text?
  let templates ← orElse text? usual.templates (Entries.find? "templates" entries)
  let settings ← orElse settings? usual.settings (Entries.find? "render" entries)
  return ⟨version, templates, settings⟩

/-- The project file that a text is. -/
def read? (source : String) : Option ProjectFile := do
  let entries ← Toml.read? source
  ofTable? entries

end ProjectFile

end SqlTemplate
