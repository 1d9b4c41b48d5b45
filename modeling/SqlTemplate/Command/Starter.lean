import SqlTemplate.Files.Host

/-!
# Starter projects

`init` writes a project file with the usual settings, and beside it a directory with
one file of example templates. A project file that is already there is not touched,
and neither is a file of example templates.
-/

namespace SqlTemplate.Command

/-- The project file of a new project. -/
def starterConfig : String :=
  "\n".intercalate
    ["version = \"1\"",
      "",
      "# Directory holding one YAML file per namespace, relative to this file.",
      "templates = \"sql\"",
      "",
      "[render]",
      "placeholder = \"question\"   # question | dollar",
      "max_include_depth = 16",
      "nested_params = \"discard\"  # discard | inline",
      ""]

/-- The example templates of a new project. -/
def starterTemplates : String :=
  "\n".intercalate
    ["# Render with: sqlbatis render example.search --data data.json",
      "findAll:",
      "  - SELECT * FROM users",
      "",
      "search:",
      "  - SELECT * FROM users WHERE",
      "  - name: if",
      "    test: \":name != null\"",
      "    sql: AND name = :name",
      "  - name: if",
      "    test: \":minAge >= 18\"",
      "    sql: AND age >= :minAge",
      "  - ORDER BY id",
      "",
      "byIds:",
      "  - SELECT * FROM users WHERE",
      "  - name: for",
      "    array: ids",
      "    separator: \" OR \"",
      "    sql: id = :id",
      ""]

/-- Why a starter project could not be written. -/
inductive StarterFault where
  | exists (path : String)
  | makeDirectory (path reason : String)
  | write (path reason : String)
deriving DecidableEq

/-- The message about a starter project that could not be written. -/
def StarterFault.message : StarterFault → String
  | .exists path => "refusing to overwrite existing file: " ++ path
  | .makeDirectory path reason => "failed to create directory " ++ path ++ ": " ++ reason
  | .write path reason => "failed to write " ++ path ++ ": " ++ reason

/-- The file of example templates beside a project file. -/
def examplePath (config : String) : String :=
  Path.join (Path.join ((Path.parent? config).getD ".") "sql") "example.yml"

variable {m : Type → Type} [Monad m]

/-- Makes the directory that a path stands in, if it names one. -/
def makeParent (host : Host m) (path : String) : ExceptT StarterFault m Unit := do
  match Path.parent? path with
  | none => return
  | some parent =>
    if parent.isEmpty then return
    match ← host.makeDirectories parent with
    | .ok _ => return
    | .error reason => throw (.makeDirectory parent reason)

/-- Writes a file of a starter project and says so. -/
def writeStarter (host : Host m) (path text : String) : ExceptT StarterFault m Unit := do
  makeParent host path
  match ← host.writeFile path text with
  | .ok _ => host.print ("wrote " ++ path ++ "\n")
  | .error reason => throw (.write path reason)

/-- Writes a starter project. -/
def startProject (host : Host m) (config : String) : ExceptT StarterFault m Unit := do
  if ← host.isPresent config then throw (.exists config)
  writeStarter host config starterConfig
  let templates := examplePath config
  if ← host.isPresent templates then return
  writeStarter host templates starterTemplates

end SqlTemplate.Command
