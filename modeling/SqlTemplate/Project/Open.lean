import SqlTemplate.Library
import SqlTemplate.Project.Expansion
import SqlTemplate.Project.File

/-!
# Opening a project

A project file names the directory of the templates, seen from its own directory. A
directory given by the caller takes its place, and then the project file may also be
missing.
-/

namespace SqlTemplate

/-- Where templates come from. -/
structure Source where
  /-- The path of the project file. -/
  config : String := "sqlbatis.toml"
  /-- The directory of the templates, instead of the one that the project file names. -/
  templates : Option String := none
deriving DecidableEq

/-- Why a project could not be opened. -/
inductive ProjectFault where
  | absent (config : String)
  | unreadable (config : String) (fault : ReadFault)
  | malformed (config : String)
  | expansion (fault : Expansion.Fault)
  | unsupportedVersion (version : String)
  | blankTemplates
  | depthTooLarge (depth : Nat)
  | library (directory : String) (e : Error)
deriving DecidableEq

/-- The message about a project that could not be opened. -/
def ProjectFault.message : ProjectFault → String
  | .absent config =>
    "config file not found: " ++ config ++
      " (run `sqlbatis init` or pass --templates <DIR>)"
  | .unreadable config fault =>
    "failed to read config file " ++ config ++ ": " ++ fault.message
  | .malformed config => "failed to parse config file " ++ config
  | .expansion fault => fault.message
  | .unsupportedVersion version => "unsupported config version: " ++ version
  | .blankTemplates => "templates must not be empty"
  | .depthTooLarge depth =>
    "render.max_include_depth is too large: " ++ natText depth ++ " (max " ++
      natText Settings.depthCeiling ++ ")"
  | .library directory e => "failed to load templates from " ++ directory ++ ": " ++ e.message

namespace ProjectFile

/-- What is wrong with a project file that can be read, if anything. -/
def fault? (file : ProjectFile) : Option ProjectFault :=
  if Text.trimmed file.version.toList ≠ ['1'] then some (.unsupportedVersion file.version)
  else if Text.isBlankText file.templates then some .blankTemplates
  else if Settings.depthCeiling < file.settings.maxIncludeDepth then
    some (.depthTooLarge file.settings.maxIncludeDepth)
  else none

variable {m : Type → Type} [Monad m]

/-- The file with the references in the name of its template directory expanded. -/
def expanded (host : Host m) (file : ProjectFile) : ExceptT ProjectFault m ProjectFile := do
  match ← Expansion.expand host.environmentVariable file.templates |>.run with
  | .ok templates => return { file with templates := templates }
  | .error fault => throw (.expansion fault)

/-- Loads the project file at a path. -/
def load (host : Host m) (config : String) : ExceptT ProjectFault m ProjectFile := do
  match decodeText (← host.readFile config) with
  | .error fault => throw (.unreadable config fault)
  | .ok source =>
    match read? source with
    | none => throw (.malformed config)
    | some file =>
      let file ← file.expanded host
      match file.fault? with
      | some fault => throw fault
      | none => return file

end ProjectFile

namespace Source

/-- The directory that a project file names, seen from the project file. -/
def directoryOf (config : String) (file : ProjectFile) : String :=
  Path.join ((Path.parent? config).getD ".") file.templates

variable {m : Type → Type} [Monad m]

/-- The settings, and the directory of the templates. -/
def locate (host : Host m) (source : Source) : ExceptT ProjectFault m (Settings × String) := do
  if ← host.isPresent source.config then
    let file ← ProjectFile.load host source.config
    return (file.settings, source.templates.getD (directoryOf source.config file))
  else
    match source.templates with
    | some directory => return ({}, directory)
    | none => throw (.absent source.config)

/-- Loads the templates and the settings they are rendered with. -/
def openEngine (host : Host m) (source : Source) : ExceptT ProjectFault m Engine := do
  let (settings, directory) ← source.locate host
  match ← ExceptT.lift (Library.load host directory) with
  | .ok registry => return ⟨registry, settings⟩
  | .error e => throw (.library directory e)

end Source

end SqlTemplate
