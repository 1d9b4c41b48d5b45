import SqlTemplate.Json.Write
import SqlTemplate.Text.Quoted

/-!
# Templates

A template is a sequence of nodes, each with text that may hold placeholders. A
literal is always part of the statement, a conditional only if its test holds,
and a repetition once for each element of an array.
-/

namespace SqlTemplate

/-- One part of a template. -/
inductive Node where
  | literal (text : String)
  | conditional (test : String) (body : String)
  | repetition (arrayKey : String) (separator : String) (body : String)
deriving DecidableEq

/-- The nodes of a named statement, in order. -/
abbrev Template := List Node

namespace Node

/-- The short name of the kind of node. -/
def kindName : Node → String
  | .literal _ => "literal"
  | .conditional _ _ => "if"
  | .repetition _ _ _ => "for"

/-- The node on one line, for a reader. -/
def shown : Node → String
  | .literal text => text
  | .conditional test body => "if (" ++ test ++ ") [" ++ body ++ "]"
  | .repetition arrayKey separator body =>
    "for (" ++ arrayKey ++ ", " ++ Text.quoted separator ++ ") [" ++ body ++ "]"

/-- The node as data. -/
def toValue : Node → Value
  | .literal text => .object [("kind", .string "literal"), ("text", .string text)]
  | .conditional test body =>
    .object [("kind", .string "conditional"), ("test", .string test), ("body", .string body)]
  | .repetition arrayKey separator body =>
    .object [("kind", .string "repetition"), ("array_key", .string arrayKey),
      ("separator", .string separator), ("body", .string body)]

end Node

/-- The template as data. -/
def Template.toValue (template : Template) : Value := .array (template.map Node.toValue)

end SqlTemplate
