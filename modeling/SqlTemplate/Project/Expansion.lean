import SqlTemplate.Text.Cut

/-!
# References to the environment

In the name of a template directory, `$` and a name in braces stand for the value of
an environment variable. A text is cut at its references; each is replaced by its
value, and the values are not searched for references again.
-/

namespace SqlTemplate.Expansion

/-- A reference: the name up to the closing brace, or all that follows an opening brace
without one. -/
inductive Reference where
  | closed (name : List Char)
  | unterminated (rest : List Char)
deriving DecidableEq

/-- The reference at the head of a text, and its length. -/
def reference : Text.Pattern Reference
  | '$' :: '\x7b' :: rest =>
    let name := rest.takeWhile (· != '\x7d')
    if name.length < rest.length then some (.closed name, name.length + 3)
    else some (.unterminated rest, rest.length + 2)
  | _ => none

/-- A text as its references and the characters between them. -/
def pieces (s : List Char) : List (Char ⊕ Reference) := Text.cut reference s

/-- Why a text could not be expanded. -/
inductive Fault where
  | unterminated (rest : List Char)
  | emptyName
  | missing (name : List Char)
deriving DecidableEq

/-- The message about a text that could not be expanded. -/
def Fault.message : Fault → String
  | .unterminated rest =>
    "unterminated env var reference: $\x7b" ++ String.ofList rest ++ "\x7d"
  | .emptyName => "invalid env var reference: $\x7b\x7d"
  | .missing name => "missing env var for config expansion: " ++ String.ofList name

variable {m : Type → Type} [Monad m]

/-- What a reference stands for, given how variables are looked up. -/
def Reference.value (lookup : String → m (Option String)) :
    Reference → ExceptT Fault m (List Char)
  | .unterminated rest => throw (.unterminated rest)
  | .closed [] => throw .emptyName
  | .closed name => do
    match ← lookup (String.ofList name) with
    | some value => return value.toList
    | none => throw (.missing name)

/-- The text that pieces stand for. The first reference that stands for nothing ends it. -/
def expandPieces (lookup : String → m (Option String)) :
    List (Char ⊕ Reference) → ExceptT Fault m (List Char)
  | [] => return []
  | .inl c :: rest => return c :: (← expandPieces lookup rest)
  | .inr reference :: rest => do
    let value ← reference.value lookup
    return value ++ (← expandPieces lookup rest)

/-- The text with its references replaced by their values. -/
def expand (lookup : String → m (Option String)) (text : String) :
    ExceptT Fault m String := do
  return String.ofList (← expandPieces lookup (pieces text.toList))

end SqlTemplate.Expansion
