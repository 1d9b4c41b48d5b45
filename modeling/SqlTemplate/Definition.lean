import SqlTemplate.Registry
import SqlTemplate.Yaml.Value

/-!
# Template definitions

The templates of a namespace are defined by a YAML mapping from keys to
templates. A template is a single text or a list of nodes; a node is a text, or
a mapping with a `name` that says what it does: `if` with `test` and `sql`, or
`for` with `array`, `sql` and an optional `separator`, which may also be spelled
`seperator`.
-/

namespace SqlTemplate

namespace Yaml

/-- The kind of a value. -/
inductive Kind where
  | null
  | boolean
  | number
  | string
  | list
  | mapping
  | tagged
deriving DecidableEq

/-- The kind of a value, named for a message. -/
def Kind.shown : Kind → String
  | .null => "null"
  | .boolean => "a boolean"
  | .number => "a number"
  | .string => "a string"
  | .list => "a list"
  | .mapping => "a mapping"
  | .tagged => "a tagged value"

namespace Value

/-- The kind of a value. -/
def kind : Value → Kind
  | .null => .null
  | .bool _ => .boolean
  | .number _ => .number
  | .string _ => .string
  | .sequence _ => .list
  | .mapping _ => .mapping
  | .tagged _ _ => .tagged

/-- The text of a scalar. -/
def text? : Value → Option String
  | .string s => some s
  | .bool b => some (if b then "true" else "false")
  | .number n => some n.text
  | _ => none

end Value

end Yaml

/-- What is wrong with a node. -/
inductive NodeFault where
  | empty
  | notText (found : Yaml.Kind)
  | missingField (field : String)
  | fieldNotText (field : String) (found : Yaml.Kind)
  | unknownDirective (name : String)
deriving DecidableEq

/-- The message about a node. -/
def NodeFault.message : NodeFault → String
  | .empty => "empty node"
  | .notText found => "expected text, found " ++ found.shown
  | .missingField field => "missing field `" ++ field ++ "`"
  | .fieldNotText field found =>
    "field `" ++ field ++ "`: expected text, found " ++ found.shown
  | .unknownDirective name =>
    "unknown directive `" ++ name ++ "` (expected `if` or `for`)"

/-- What is wrong with a template. -/
inductive TemplateFault where
  | notAList (found : Yaml.Kind)
  /-- The node at a position, counted from 1, is malformed. -/
  | node (position : Nat) (fault : NodeFault)
deriving DecidableEq

/-- The message about a template. -/
def TemplateFault.message : TemplateFault → String
  | .notAList found => "expected a list of nodes, found " ++ found.shown
  | .node position fault => "node " ++ natText position ++ ": " ++ fault.message

/-- What is wrong with the definitions of a namespace. -/
inductive DefinitionFault where
  | invalidYaml
  | notAMapping (found : Yaml.Kind)
  | badKey (found : Yaml.Kind)
  | template (key : String) (fault : TemplateFault)
deriving DecidableEq

/-- The message about the definitions of a namespace. -/
def DefinitionFault.message : DefinitionFault → String
  | .invalidYaml => "invalid YAML"
  | .notAMapping found => "expected a mapping of template keys, found " ++ found.shown
  | .badKey found => "template keys must be non-empty strings, found " ++ found.shown
  | .template key fault => "template `" ++ key ++ "`: " ++ fault.message

namespace Node

/-- The text of a field; `none` if it is absent or `null`. -/
def optionalField (entries : List (Yaml.Value × Yaml.Value)) (field : String) :
    Except NodeFault (Option String) :=
  match Yaml.Value.field? field entries with
  | none => .ok none
  | some .null => .ok none
  | some v =>
    match v.text? with
    | some text => .ok (some text)
    | none => .error (.fieldNotText field v.kind)

/-- The text of a field that must be there. -/
def requiredField (entries : List (Yaml.Value × Yaml.Value)) (field : String) :
    Except NodeFault String :=
  match optionalField entries field with
  | .ok (some text) => .ok text
  | .ok none => .error (.missingField field)
  | .error fault => .error fault

/-- The separator of a repetition, under either spelling; empty if there is none. -/
def separatorField (entries : List (Yaml.Value × Yaml.Value)) : Except NodeFault String :=
  match optionalField entries "separator" with
  | .ok (some text) => .ok text
  | .ok none => (optionalField entries "seperator").map (·.getD "")
  | .error fault => .error fault

/-- The node that a YAML value defines. -/
def ofYaml : Yaml.Value → Except NodeFault Node
  | .mapping entries => do
    let name ← requiredField entries "name"
    let directive := name.toList.map Char.toLower
    if directive = ['i', 'f'] then do
      let test ← requiredField entries "test"
      let body ← requiredField entries "sql"
      return .conditional test body
    else if directive = ['f', 'o', 'r'] then do
      let separator ← separatorField entries
      let arrayKey ← requiredField entries "array"
      let body ← requiredField entries "sql"
      return .repetition arrayKey separator body
    else .error (.unknownDirective name)
  | .null => .error .empty
  | v =>
    match v.text? with
    | some text => .ok (.literal text)
    | none => .error (.notText v.kind)

end Node

namespace Template

/-- The nodes that YAML values define, the first at the given position. -/
def nodesOfYaml : (position : Nat) → List Yaml.Value → Except TemplateFault Template
  | _, [] => .ok []
  | position, v :: rest =>
    match Node.ofYaml v with
    | .error fault => .error (.node position fault)
    | .ok node => (nodesOfYaml (position + 1) rest).map (node :: ·)

/-- The template that a YAML value defines. -/
def ofYaml : Yaml.Value → Except TemplateFault Template
  | .string s => .ok [.literal s]
  | .sequence items => nodesOfYaml 1 items
  | v => .error (.notAList v.kind)

end Template

/-- The templates that the entries of a mapping define. -/
def templatesOfEntries :
    List (Yaml.Value × Yaml.Value) → Except DefinitionFault (List (String × Template))
  | [] => .ok []
  | (key, body) :: rest =>
    match key with
    | .string name =>
      if name.isEmpty then .error (.badKey .string)
      else
        match Template.ofYaml body with
        | .error fault => .error (.template name fault)
        | .ok template => (templatesOfEntries rest).map ((name, template) :: ·)
    | v => .error (.badKey v.kind)

/-- The templates of a namespace that a YAML value defines. -/
def templatesOfYaml : Yaml.Value → Except DefinitionFault (List (String × Template))
  | .mapping entries => templatesOfEntries entries
  | .null => .ok []
  | v => .error (.notAMapping v.kind)

/-- The templates of a namespace that a YAML text defines. -/
def readDefinitions (source : String) : Except DefinitionFault (List (String × Template)) :=
  match Yaml.read? source with
  | some v => templatesOfYaml v
  | none => .error .invalidYaml

/-- The message about definitions found at a place. -/
def DefinitionFault.messageAt (origin : String) (fault : DefinitionFault) : String :=
  origin ++ ": " ++ fault.message

end SqlTemplate
