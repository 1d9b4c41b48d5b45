import SqlTemplate.Render

/-!
# Errors of the library

Everything that finding, rendering or loading templates can report.
-/

namespace SqlTemplate

/-- An error of the library. -/
inductive Error where
  | render (e : RenderError)
  /-- A template definition that cannot be used. -/
  | load (text : String)
  /-- A file that cannot be read. -/
  | file (text : String)
  | other (text : String)
deriving DecidableEq

namespace Error

/-- The message of an error. -/
def message : Error → String
  | .render e => e.message
  | .load text => "Load error: " ++ text
  | .file text => "IO error: " ++ text
  | .other text => text

/-- Whether an address was malformed. -/
def isKeyFormat : Error → Bool
  | .render (.keyFormat _) => true
  | _ => false

/-- Whether a namespace or a template was missing. -/
def isNotFound : Error → Bool
  | .render (.namespaceNotFound _) => true
  | .render (.templateNotFound _ _) => true
  | _ => false

/-- Whether inclusions nested too deep. -/
def isRecursionLimit : Error → Bool
  | .render (.recursionLimitExceeded _ _) => true
  | _ => false

end Error

end SqlTemplate
