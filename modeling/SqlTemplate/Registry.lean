import SqlTemplate.Keyed
import SqlTemplate.Template

/-!
# The registry of templates

Templates are registered under a namespace and a key, and addressed by both
with a dot between them. Namespaces and keys are listed in order.
-/

namespace SqlTemplate

/-- An address: a namespace and a key within it. -/
structure QualifiedKey where
  namespaceName : String
  key : String
deriving DecidableEq

namespace QualifiedKey

/-- Splits an address at its first dot; an address without one is malformed. -/
def parse? (qualified : String) : Option QualifiedKey :=
  let chars := qualified.toList
  match chars.dropWhile (· != '.') with
  | '.' :: key => some ⟨String.ofList (chars.takeWhile (· != '.')), String.ofList key⟩
  | _ => none

/-- The address as text. -/
def text (k : QualifiedKey) : String := k.namespaceName ++ "." ++ k.key

end QualifiedKey

/-- Templates by namespace, then by key, both in order. -/
structure Registry where
  namespaces : Entries (Entries Template)

namespace Registry

/-- The registry without any namespace. -/
def empty : Registry := ⟨[]⟩

instance : Inhabited Registry := ⟨empty⟩

/-- The templates of a namespace, if it is present. -/
def templates? (r : Registry) (namespaceName : String) : Option (Entries Template) :=
  Entries.find? namespaceName r.namespaces

/-- The template at an address. -/
def find? (r : Registry) (namespaceName key : String) : Option Template :=
  (r.templates? namespaceName).bind (Entries.find? key)

/-- Whether a namespace is present, be it empty. -/
def hasNamespace (r : Registry) (namespaceName : String) : Bool :=
  (r.templates? namespaceName).isSome

/-- Registers one template, in place of the one that was there. -/
def insert (r : Registry) (namespaceName key : String) (template : Template) : Registry :=
  ⟨Entries.insert namespaceName
    (Entries.insert key template ((r.templates? namespaceName).getD [])) r.namespaces⟩

/-- Registers a whole namespace; `none` if it is present already. -/
def insertNamespace? (r : Registry) (namespaceName : String)
    (templates : List (String × Template)) : Option Registry :=
  if r.hasNamespace namespaceName then none
  else some ⟨Entries.insert namespaceName (Entries.ofList templates) r.namespaces⟩

/-- The namespaces, in order. -/
def namespaceNames (r : Registry) : List String := Entries.keys r.namespaces

/-- The keys of a namespace, in order. -/
def keys (r : Registry) (namespaceName : String) : List String :=
  Entries.keys ((r.templates? namespaceName).getD [])

/-- The addresses of all templates: by namespace, and by key within each. -/
def qualifiedKeys (r : Registry) : List String :=
  r.namespaces.flatMap fun (namespaceName, templates) =>
    templates.map fun (key, _) => (QualifiedKey.mk namespaceName key).text

/-- The number of templates. -/
def size (r : Registry) : Nat :=
  r.namespaces.foldr (fun (_, templates) n => templates.length + n) 0

/-- Whether no template is registered. -/
def isEmpty (r : Registry) : Bool := r.namespaces.all (·.2.isEmpty)

end Registry

end SqlTemplate
