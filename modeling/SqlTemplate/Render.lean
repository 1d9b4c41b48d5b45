import SqlTemplate.Clause
import SqlTemplate.Condition.Eval
import SqlTemplate.Placeholder
import SqlTemplate.Registry
import SqlTemplate.Settings

/-!
# Rendering templates

The nodes of a template are resolved against a data context, those that take
part are joined by single spaces, and clauses left dangling are repaired. A key
in double braces renders another registered template against the same context,
one level deeper; the recursion is on the levels that are left, so a cycle of
templates ends in an error.
-/

namespace SqlTemplate

/-- Why a template could not be found or rendered. -/
inductive RenderError where
  /-- The address has no dot. -/
  | keyFormat (key : String)
  | namespaceNotFound (namespaceName : String)
  | templateNotFound (namespaceName key : String)
  /-- Including `key` would nest deeper than `limit`. -/
  | recursionLimitExceeded (key : String) (limit : Nat)
deriving DecidableEq

/-- The message of a rendering error. -/
def RenderError.message : RenderError → String
  | .keyFormat key => "Key format error: " ++ key ++ " (expected `namespace.key`)"
  | .namespaceNotFound namespaceName => "Namespace not found: " ++ namespaceName
  | .templateNotFound namespaceName key =>
    "Template not found: " ++ (QualifiedKey.mk namespaceName key).text
  | .recursionLimitExceeded key limit =>
    "Recursion limit exceeded while including '" ++ key ++ "' (limit: " ++ natText limit ++ ")"

/-- A finished statement: its text, and its parameters in the order of the markers. -/
structure Statement where
  sql : String
  params : List Value

/-- The statement as data. -/
def Statement.toValue (s : Statement) : Value :=
  .object [("sql", .string s.sql), ("params", .array s.params)]

namespace Fragment

/-- Repairs the stretches of text between markers. Only the last stretch can end
the statement. -/
def repairPieces : List Piece → List Piece
  | [] => []
  | [.text s] => [.text (Clause.repair true s)]
  | .text s :: rest => .text (Clause.repair false s) :: repairPieces rest
  | .param v :: rest => .param v :: repairPieces rest

/-- The fragment with its clauses repaired. -/
def repaired (f : Fragment) : Fragment := ofPieces (repairPieces f.pieces)

end Fragment

/-- Templates together with the settings they are rendered with. -/
structure Engine where
  registry : Registry
  settings : Settings

namespace Engine

/-- The template at an address. -/
def template (e : Engine) (qualified : String) : Except RenderError Template :=
  match QualifiedKey.parse? qualified with
  | none => .error (.keyFormat qualified)
  | some k =>
    match e.registry.find? k.namespaceName k.key with
    | some t => .ok t
    | none =>
      if e.registry.hasNamespace k.namespaceName then
        .error (.templateNotFound k.namespaceName k.key)
      else .error (.namespaceNotFound k.namespaceName)

/-- How an included statement enters the text around it. -/
def nest (e : Engine) (f : Fragment) : Fragment :=
  match e.settings.nestedParams with
  | .inline => f
  | .discard => Fragment.ofText (f.text e.settings.markers)

/-- What keys in double braces stand for, depending on the context. -/
abbrev Inclusion := String → Value → Except RenderError Fragment

/-- Resolves a text against a context. -/
def resolveText (inclusion : Inclusion) (context : Value) (text : String) :
    Except RenderError Fragment :=
  Placeholder.resolve (fun key => inclusion key context) context text.toList

/-- The elements of the array that a name denotes; none if it denotes anything else. -/
def elements (context : Value) (name : String) : List Value :=
  match context.lookup name with
  | some (.array items) => items
  | _ => []

/-- What a node contributes to the statement; `none` if it takes no part. -/
def renderNode (inclusion : Inclusion) (context : Value) :
    Node → Except RenderError (Option Fragment)
  | .literal text => (resolveText inclusion context text).map some
  | .conditional test body =>
    if Condition.passes test context then (resolveText inclusion context body).map some
    else .ok none
  | .repetition arrayKey separator body =>
    match elements context arrayKey with
    | [] => .ok none
    | items => do
      let parts ← items.mapM fun item => resolveText inclusion item body
      return some (Fragment.join separator.toList parts)

/-- The nodes that take part, joined by single spaces and repaired. -/
def assemble (inclusion : Inclusion) (context : Value) (template : Template) :
    Except RenderError Fragment := do
  let parts ← template.mapM (renderNode inclusion context)
  return (Fragment.join [' '] (parts.filterMap id)).repaired

/-- Includes the template at an address, with so many levels left. -/
def inclusion (e : Engine) : (levels : Nat) → Inclusion
  | 0, key, _ => .error (.recursionLimitExceeded key e.settings.depthLimit)
  | levels + 1, key, context => do
    let t ← e.template key
    let nested ← assemble (e.inclusion levels) context t
    return e.nest nested

/-- The fragment of a template that need not be registered. -/
def fragment (e : Engine) (template : Template) (context : Value) :
    Except RenderError Fragment :=
  assemble (e.inclusion e.settings.depthLimit) context template

/-- Renders a template that need not be registered. -/
def renderTemplate (e : Engine) (template : Template) (context : Value) :
    Except RenderError Statement := do
  let f ← e.fragment template context
  return ⟨f.sql e.settings.markers, f.params⟩

/-- Renders the template at an address. -/
def render (e : Engine) (qualified : String) (context : Value) :
    Except RenderError Statement := do
  let t ← e.template qualified
  e.renderTemplate t context

end Engine

end SqlTemplate
