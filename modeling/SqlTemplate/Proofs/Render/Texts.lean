import SqlTemplate.Render

/-!
# The texts that take part

Which texts of a template are resolved, and against which context, is decided before any of
them is: a literal always and once, a conditional if its test holds, and a repetition once
for each of its elements.

> `renderNode_eq_mapM`: rendering a node is resolving its texts from left to right.

Whatever a template does with its texts can so be said of the list of them.
-/

namespace SqlTemplate

/-- The texts of a node that are resolved, in order, each with its context. -/
def Node.texts (context : Value) : Node → List (Value × String)
  | .literal text => [(context, text)]
  | .conditional test body => if Condition.passes test context then [(context, body)] else []
  | .repetition arrayKey _ body =>
    (Engine.elements context arrayKey).map fun item => (item, body)

/-- The texts of a template that are resolved, in order, each with its context. -/
def Template.texts (context : Value) (t : Template) : List (Value × String) :=
  t.flatMap (Node.texts context)

/-- The text between two resolved texts of a node. Only repetitions have more than one. -/
def Node.separator : Node → String
  | .repetition _ separator _ => separator
  | _ => ""

/-- The parts of a node with a text between each two; nothing if there are none. -/
def Fragment.joinAny? (separator : List Char) : List Fragment → Option Fragment
  | [] => none
  | f :: fs => some (join separator (f :: fs))

namespace Engine

/-- Rendering a node is resolving its texts from left to right. -/
theorem renderNode_eq_mapM (i : Inclusion) (context : Value) (node : Node) :
    renderNode i context node =
      ((node.texts context).mapM fun p => resolveText i p.1 p.2).map
        (Fragment.joinAny? node.separator.toList) := by
  have hone : ∀ text, (resolveText i context text).map some =
      ([(context, text)].mapM fun p => resolveText i p.1 p.2).map
        (Fragment.joinAny? node.separator.toList) := by
    intro text
    rw [List.mapM_cons, List.mapM_nil]
    cases resolveText i context text <;> rfl
  cases node with
  | literal text => exact hone text
  | conditional test body =>
    rw [renderNode, Node.texts]
    split
    · exact hone body
    · rfl
  | repetition arrayKey separator body =>
    rw [renderNode, Node.texts, List.mapM_map]
    cases elements context arrayKey with
    | nil => rfl
    | cons item items =>
      -- with one element at least there is one part at least
      dsimp only [Function.comp_def]
      rw [List.mapM_cons]
      cases resolveText i item body with
      | error err => rfl
      | ok f => cases items.mapM fun item => resolveText i item body <;> rfl

end Engine

end SqlTemplate
